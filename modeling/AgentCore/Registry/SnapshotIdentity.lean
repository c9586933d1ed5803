import AgentCore.Foundation.JsonText
import AgentCore.Registry.Snapshot

/-! The identifier of a snapshot stands for its content: two lists of operations and bindings
have one identifier exactly if they are the same up to their order. -/

namespace AgentCore.Registry

open Foundation Domain List

variable {specs specs' : List OperationSpec} {bindings bindings' : List HookBinding}

lemma BindingKind.text_injective : Function.Injective BindingKind.text := by
  intro a b h
  cases a <;> cases b <;> first | rfl | exact absurd h (by decide)

lemma riskText_injective : Function.Injective riskText := by
  intro a b h
  cases a <;> cases b <;> first | rfl | exact absurd h (by decide)

lemma OperationSpec.eq_of_canonical {a b : OperationSpec} (hname : a.name = b.name)
    (h : a.canonical = b.canonical) : a = b := by
  have hmem := fun f => (Json.mem_of_mkObj_eq (by simp) (by simp) h f).mp
  have hall := forall_iff_forall_mem.mpr hmem
  simp [riskText_injective.eq_iff, BindingKind.text_injective.eq_iff] at hall
  cases a
  cases b
  simp_all

lemma HookBinding.canonical_injective : Function.Injective HookBinding.canonical := by
  intro a b h
  have hmem := fun f => (Json.mem_of_mkObj_eq (by simp) (by simp) h f).mp
  have hall := forall_iff_forall_mem.mpr hmem
  simp [BindingKind.text_injective.eq_iff] at hall
  cases a
  cases b
  simp_all

/-- Different names and contracts, none of them the key of the bindings, and values that a
reader of JSON can answer with. -/
structure Content [Platform] (specs : List OperationSpec) (bindings : List HookBinding) : Prop where
  names : (operationNames specs).Nodup
  reserved : "__hook_bindings" ∉ operationNames specs
  contracts : (hookContracts bindings).Nodup
  values : ∀ spec ∈ specs, spec.parameters.wf Platform.readFloat = true

def contentFields (specs : List OperationSpec) (bindings : List HookBinding) :
    List (String × Json) :=
  (sortedByName specs).map (fun spec => (spec.name, spec.canonical)) ++
    if (sortedByContract bindings).isEmpty then []
    else [("__hook_bindings", .arr ((sortedByContract bindings).map HookBinding.canonical))]

lemma mem_bindings_entry (hreserved : "__hook_bindings" ∉ operationNames specs) :
    ("__hook_bindings", v) ∈ contentFields specs bindings ↔ sortedByContract bindings ≠ [] ∧
      v = .arr ((sortedByContract bindings).map HookBinding.canonical) := by
  have hnot : ∀ spec ∈ specs, ¬ spec.name = "__hook_bindings" := fun spec hspec heq =>
    hreserved (heq ▸ mem_map_of_mem hspec)
  by_cases hempty : sortedByContract bindings = [] <;>
    simp +contextual [contentFields, hempty, sortedByName, hnot]

lemma mem_operation_entry {spec : OperationSpec} (hname : spec.name ≠ "__hook_bindings") :
    (spec.name, spec.canonical) ∈ contentFields specs bindings ↔ spec ∈ specs := by
  rw [contentFields, mem_append]
  constructor
  · rintro (h | h)
    · obtain ⟨other, hother, heq⟩ := mem_map.mp h
      obtain ⟨hsame, hcanonical⟩ := Prod.mk.inj heq
      exact OperationSpec.eq_of_canonical hsame hcanonical ▸ mem_sortBy.mp hother
    · split at h
      · cases h
      · exact absurd (Prod.mk.inj (mem_singleton.mp h)).1 hname
  · intro h
    exact .inl (mem_map.mpr ⟨spec, mem_sortBy.mpr h, rfl⟩)

section

variable [Platform]

lemma Content.keys (h : Content specs bindings) :
    ((contentFields specs bindings).map Prod.fst).Nodup := by
  have hperm : ((sortedByName specs).map OperationSpec.name).Perm (operationNames specs) :=
    (perm_sortBy _ specs).map _
  have hkeys : ((sortedByName specs).map fun spec => (spec.name, spec.canonical)).map Prod.fst =
      (sortedByName specs).map OperationSpec.name := map_map
  rw [contentFields, map_append, hkeys]
  refine nodup_append.mpr ⟨hperm.nodup_iff.mpr h.names, ?_, ?_⟩
  · split <;> simp
  · intro name hname key hkey
    split at hkey
    · cases hkey
    · rw [mem_singleton.mp hkey]
      rintro rfl
      exact h.reserved (hperm.mem_iff.mp hname)

lemma Content.wf (h : Content specs bindings) :
    (canonicalContent specs bindings).wf Platform.readFloat = true := by
  refine Json.wf_mkObj fun f hf => ?_
  rcases mem_append.mp hf with hf | hf
  · obtain ⟨spec, hspec, rfl⟩ := mem_map.mp hf
    have hvalue := h.values spec (mem_sortBy.mp hspec)
    exact Json.wf_mkObj (by simp [Json.wf, hvalue])
  · split at hf
    · cases hf
    · rw [mem_singleton.mp hf, Json.wf, Json.wfItems_iff]
      intro v hv
      obtain ⟨binding, -, rfl⟩ := mem_map.mp hv
      exact Json.wf_mkObj (by simp [Json.wf])

lemma Content.perm (h : Content specs bindings) (h' : Content specs' bindings')
    (heq : canonicalContent specs bindings = canonicalContent specs' bindings') :
    specs.Perm specs' ∧ bindings.Perm bindings' := by
  have hmem := Json.mem_of_mkObj_eq h.keys h'.keys heq
  constructor
  · refine (perm_ext_iff_of_nodup h.names.of_map h'.names.of_map).mpr fun spec => ?_
    by_cases hname : spec.name = "__hook_bindings"
    · have hnot : ∀ l, "__hook_bindings" ∉ operationNames l → spec ∉ l := fun l hl hs =>
        hl (hname ▸ mem_map_of_mem hs)
      exact iff_of_false (hnot _ h.reserved) (hnot _ h'.reserved)
    · exact (mem_operation_entry hname).symm.trans ((hmem _).trans (mem_operation_entry hname))
  · have hentry : sortedByContract bindings = sortedByContract bindings' := by
      have hboth := fun v => (mem_bindings_entry h.reserved).symm.trans
        ((hmem ("__hook_bindings", v)).trans (mem_bindings_entry h'.reserved))
      by_cases hempty : sortedByContract bindings = []
      · by_contra hne
        exact ((hboth _).mpr ⟨fun hnil => hne (hempty.trans hnil.symm), rfl⟩).1 hempty
      · exact HookBinding.canonical_injective.list_map (Json.arr.inj ((hboth _).mp ⟨hempty, rfl⟩).2)
    exact ((perm_sortBy _ bindings).symm.trans (.of_eq hentry)).trans (perm_sortBy _ bindings')

lemma canonicalContent_congr (h : Content specs bindings) (hspecs : specs.Perm specs')
    (hbindings : bindings.Perm bindings') :
    canonicalContent specs bindings = canonicalContent specs' bindings' := by
  have hsorted : sortedByName specs = sortedByName specs' := sortBy_congr hspecs h.names
  have hsorted' : sortedByContract bindings = sortedByContract bindings' :=
    sortBy_congr hbindings h.contracts
  rw [canonicalContent, canonicalContent, hsorted, hsorted']

theorem snapshotId_eq_iff (hsha : Function.Injective Platform.sha256Hex)
    (h : Content specs bindings) (h' : Content specs' bindings') :
    computeSnapshotIdWithHookBindings specs bindings =
        computeSnapshotIdWithHookBindings specs' bindings' ↔
      specs.Perm specs' ∧ bindings.Perm bindings' := by
  constructor
  · intro hid
    have htext : (canonicalContent specs bindings).toText = (canonicalContent specs' bindings').toText :=
      hsha (String.append_right_inj _ |>.mp hid)
    obtain ⟨hlegible, hsame⟩ := Json.legible_of_wf _ h.wf
    obtain ⟨hlegible', hsame'⟩ := Json.legible_of_wf _ h'.wf
    have hcontent := Json.toText_inj hlegible hlegible' htext
    rw [hsame, hsame'] at hcontent
    exact h.perm h' hcontent
  · rintro ⟨hspecs, hbindings⟩
    rw [computeSnapshotIdWithHookBindings, canonicalContent_congr h hspecs hbindings]
    rfl

end

def otherHook : HookBinding := { HookBinding.builtinBudget with contract := "context.prepare.v0" }

theorem snapshotId_swapped : letI := referencePlatform
    computeSnapshotIdWithHookBindings [] [.builtinBudget, otherHook] =
      computeSnapshotIdWithHookBindings [] [otherHook, .builtinBudget] := by
  let := referencePlatform
  refine (snapshotId_eq_iff hexCode_hexDigest.injective ?_ ?_).mpr ⟨.refl _, .swap _ _ _⟩
  all_goals exact ⟨by decide, by decide, by decide, by simp⟩

end AgentCore.Registry
