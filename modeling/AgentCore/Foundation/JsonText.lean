import AgentCore.Foundation.JsonParse

/-! The compact text of a value determines it up to the order in which its objects list their
members. -/

namespace AgentCore.Foundation.Json

open List

lemma toText_inj (hv : legible readFloat v = true) (hw : legible readFloat w = true)
    (h : toText v = toText w) : sortKeys v = sortKeys w := by
  have hprint : print v = print w := String.ofList_injective h
  have hread : ∀ u, legible readFloat u = true → nesting u ≤ nesting v + nesting w →
      print u = print w → parseValue readFloat (print w).length (nesting v + nesting w + 1)
        (print w ++ []) = some (sortKeys u, []) := by
    intro u hu hnesting hsame
    rw [← hsame]
    exact parseValue_print readFloat u _ _ [] hu (by omega) le_rfl noNumberHead_nil
  have hboth := (hread v hv (by omega) hprint).symm.trans (hread w hw (by omega) rfl)
  exact (Prod.mk.inj (Option.some.inj hboth)).1

lemma sortFields_eq_map (fs : List (String × Json)) :
    sortFields fs = fs.map fun f => (f.1, sortKeys f.2) := by
  induction fs with
  | nil => rfl
  | cons f fs ih => rw [sortFields, ih, map_cons]

lemma legibleFields_iff :
    legibleFields readFloat fs = true ↔ ∀ f ∈ fs, legible readFloat f.2 = true := by
  induction fs with
  | nil => simp [legibleFields]
  | cons f fs ih => rw [legibleFields, Bool.and_eq_true, ih, forall_mem_cons]

lemma legible_mkObj (h : ∀ f ∈ fs, legible readFloat f.2 = true) :
    legible readFloat (mkObj fs) = true :=
  legibleFields_iff.mpr fun f hf => h f ((mem_insertFields hf).resolve_right not_mem_nil)

/-! ## Object literals -/

lemma mem_insertFields_nil (hkeys : (fs.map Prod.fst).Nodup) : f ∈ insertFields fs [] ↔ f ∈ fs := by
  constructor
  · intro h
    exact (mem_insertFields h).resolve_right not_mem_nil
  · intro h
    exact mem_of_lookup (get_mkObj_of_mem hkeys h)

lemma mkObj_congr (hfs : (fs.map Prod.fst).Nodup) (hgs : (gs.map Prod.fst).Nodup)
    (h : ∀ f, f ∈ fs ↔ f ∈ gs) : mkObj fs = mkObj gs := by
  have hsorted : ∀ hs : List (String × Json), KeysSorted (insertFields hs []) := fun hs =>
    keysSorted_insertFields hs keysSorted_nil
  have hnodup : ∀ hs : List (String × Json), (insertFields hs []).Nodup := fun hs =>
    (hsorted hs).imp fun hlt heq => absurd hlt (by rw [heq]; exact lt_irrefl _)
  have hperm : (insertFields fs []).Perm (insertFields gs []) := by
    refine (perm_ext_iff_of_nodup (hnodup fs) (hnodup gs)).mpr fun f => ?_
    rw [mem_insertFields_nil hfs, mem_insertFields_nil hgs, h]
  refine congrArg obj (hperm.eq_of_pairwise (fun a b _ _ hab hba => ?_) (hsorted fs) (hsorted gs))
  exact absurd (hab.trans hba) (lt_irrefl _)

lemma mem_of_mkObj_eq (hfs : (fs.map Prod.fst).Nodup) (hgs : (gs.map Prod.fst).Nodup)
    (h : mkObj fs = mkObj gs) (f : String × Json) : f ∈ fs ↔ f ∈ gs := by
  rw [← mem_insertFields_nil hfs, ← mem_insertFields_nil hgs, Json.obj.inj h]

lemma map_fst_sortFields (fs : List (String × Json)) :
    (sortFields fs).map Prod.fst = fs.map Prod.fst := by
  simp [sortFields_eq_map]

lemma sortKeys_mkObj (hfs : (fs.map Prod.fst).Nodup) :
    sortKeys (mkObj fs) = mkObj (sortFields fs) := by
  have hnodup : ((insertFields fs []).map Prod.fst).Nodup :=
    pairwise_map.mpr ((keysSorted_insertFields fs keysSorted_nil).imp ne_of_lt)
  refine mkObj_congr (by rwa [map_fst_sortFields]) (by rwa [map_fst_sortFields]) fun f => ?_
  simp [sortFields_eq_map, mem_insertFields_nil hfs]

/-! ## Values up to the order of members -/

/-- No object in it has two members of one name. -/
inductive UniqueKeys : Json → Prop
  | scalar {v} (harr : ∀ xs, v ≠ .arr xs) (hobj : ∀ fs, v ≠ .obj fs) : UniqueKeys v
  | arr {xs} (h : ∀ x ∈ xs, UniqueKeys x) : UniqueKeys (.arr xs)
  | obj {fs} (hkeys : (fs.map Prod.fst).Nodup) (h : ∀ f ∈ fs, UniqueKeys f.2) :
      UniqueKeys (.obj fs)

/-- Equal but for the order in which objects list their members. -/
inductive SameMembers : Json → Json → Prop
  | refl (v) : SameMembers v v
  | arr {xs ys} (hlength : xs.length = ys.length)
      (h : ∀ (i : Nat) x y, xs[i]? = some x → ys[i]? = some y → SameMembers x y) :
      SameMembers (.arr xs) (.arr ys)
  | obj {fs gs} (hkeys : ∀ k, k ∈ fs.map Prod.fst ↔ k ∈ gs.map Prod.fst)
      (h : ∀ k v w, (k, v) ∈ fs → (k, w) ∈ gs → SameMembers v w) :
      SameMembers (.obj fs) (.obj gs)

lemma sortItems_eq_map (xs : List Json) : sortItems xs = xs.map sortKeys := by
  induction xs with
  | nil => rfl
  | cons x xs ih => rw [sortItems, ih, map_cons]

lemma sortKeys_scalar (harr : ∀ xs, v ≠ arr xs) (hobj : ∀ fs, v ≠ obj fs) : sortKeys v = v := by
  cases v with
  | arr xs => exact absurd rfl (harr xs)
  | obj fs => exact absurd rfl (hobj fs)
  | _ => rfl

lemma UniqueKeys.of_arr (h : UniqueKeys (.arr xs)) : ∀ x ∈ xs, UniqueKeys x := by
  cases h with
  | scalar harr _ => exact absurd rfl (harr xs)
  | arr h => exact h

lemma UniqueKeys.of_obj (h : UniqueKeys (.obj fs)) :
    ((sortFields fs).map Prod.fst).Nodup ∧ ∀ f ∈ fs, UniqueKeys f.2 := by
  rw [map_fst_sortFields]
  cases h with
  | scalar _ hobj => exact absurd rfl (hobj fs)
  | obj hkeys h => exact ⟨hkeys, h⟩

lemma sortKeys_sortKeys (h : UniqueKeys v) : sortKeys (sortKeys v) = sortKeys v := by
  induction h with
  | scalar harr hobj => rw [sortKeys_scalar harr hobj, sortKeys_scalar harr hobj]
  | arr _ ih => simpa [sortKeys, sortItems_eq_map] using ih
  | obj hkeys _ ih =>
    rw [sortKeys, sortKeys_mkObj (by rwa [map_fst_sortFields])]
    simp only [sortFields_eq_map, map_map]
    exact congrArg mkObj (map_congr_left fun f hf => Prod.ext rfl (ih f hf))

lemma legible_sortKeys (h : UniqueKeys v) (hv : legible readFloat v = true) :
    legible readFloat (sortKeys v) = true := by
  have hitems : ∀ xs, legibleItems readFloat xs = true ↔ ∀ x ∈ xs, legible readFloat x = true := by
    intro xs
    induction xs with
    | nil => simp [legibleItems]
    | cons x xs ih => rw [legibleItems, Bool.and_eq_true, ih, forall_mem_cons]
  induction h with
  | scalar harr hobj => rwa [sortKeys_scalar harr hobj]
  | arr _ ih =>
    rw [legible, hitems] at hv
    rw [sortKeys, legible, hitems, sortItems_eq_map, forall_mem_map]
    exact fun x hx => ih x hx (hv x hx)
  | obj _ _ ih =>
    rw [legible, legibleFields_iff] at hv
    rw [sortKeys, sortFields_eq_map]
    exact legible_mkObj (forall_mem_map.mpr fun f hf => ih f hf (hv f hf))

lemma sameMembers_of_sortKeys (ha : UniqueKeys a) (hb : UniqueKeys b)
    (h : sortKeys a = sortKeys b) : SameMembers a b := by
  induction ha generalizing b with
  | scalar harr hobj =>
    rw [sortKeys_scalar harr hobj] at h
    cases hb with
    | scalar harr' hobj' => exact sortKeys_scalar harr' hobj' ▸ h ▸ .refl _
    | arr => exact absurd h (harr _)
    | obj => exact absurd h (hobj _)
  | arr _ ih =>
    cases hb with
    | scalar harr' hobj' => exact absurd (sortKeys_scalar harr' hobj' ▸ h.symm) (harr' _)
    | arr hys =>
      rw [sortKeys, sortKeys, sortItems_eq_map, sortItems_eq_map, arr.injEq] at h
      refine .arr (by simpa using congrArg length h) fun i x y hx hy => ?_
      have hi := congrArg (·[i]?) h
      simp only [getElem?_map, hx, hy, Option.map_some, Option.some.injEq] at hi
      exact ih x (mem_of_getElem? hx) (hys y (mem_of_getElem? hy)) hi
    | obj => cases h
  | obj hkeys hfs ih =>
    cases hb with
    | scalar harr' hobj' => exact absurd (sortKeys_scalar harr' hobj' ▸ h.symm) (hobj' _)
    | arr => cases h
    | @obj gs hkeys' hgs =>
      have hnodup := (UniqueKeys.obj hkeys' hgs).of_obj.1
      have hmem := mem_of_mkObj_eq (UniqueKeys.obj hkeys hfs).of_obj.1 hnodup h
      refine .obj (fun k => ?_) fun k v w hv hw => ih (k, v) hv (hgs (k, w) hw) ?_
      · rw [← map_fst_sortFields, ← map_fst_sortFields gs]
        simp only [mem_map, hmem]
      · have hin : ∀ {hs : List (String × Json)} {u}, (k, u) ∈ hs →
            (k, sortKeys u) ∈ sortFields hs := by
          intro hs u hu
          rw [sortFields_eq_map]
          exact mem_map_of_mem hu
        exact congrArg Prod.snd
          (inj_on_of_nodup_map hnodup ((hmem _).mp (hin hv)) (hin hw) rfl)

lemma SameMembers.sortKeys (h : SameMembers a b) (ha : UniqueKeys a) (hb : UniqueKeys b) :
    sortKeys a = sortKeys b := by
  induction h with
  | refl v => rfl
  | arr hlength _ ih =>
    rw [Json.sortKeys, Json.sortKeys, sortItems_eq_map, sortItems_eq_map]
    refine congrArg Json.arr (ext_getElem (by simpa using hlength) fun i hi hi' => ?_)
    simp only [getElem_map]
    exact ih i _ _ (getElem?_eq_getElem _) (getElem?_eq_getElem _)
      (ha.of_arr _ (getElem_mem _)) (hb.of_arr _ (getElem_mem _))
  | @obj fs gs hkeys _ ih =>
    obtain ⟨hfs, hvalues⟩ := ha.of_obj
    obtain ⟨hgs, hvalues'⟩ := hb.of_obj
    refine mkObj_congr hfs hgs fun f => ?_
    simp only [sortFields_eq_map, mem_map]
    constructor
    · rintro ⟨⟨k, v⟩, hv, rfl⟩
      obtain ⟨⟨_, w⟩, hw, rfl⟩ := mem_map.mp ((hkeys k).mp (mem_map_of_mem hv))
      exact ⟨_, hw, Prod.ext rfl (ih _ v w hv hw (hvalues _ hv) (hvalues' _ hw)).symm⟩
    · rintro ⟨⟨k, w⟩, hw, rfl⟩
      obtain ⟨⟨_, v⟩, hv, rfl⟩ := mem_map.mp ((hkeys k).mpr (mem_map_of_mem hw))
      exact ⟨_, hv, Prod.ext rfl (ih _ v w hv hw (hvalues _ hv) (hvalues' _ hw))⟩

end AgentCore.Foundation.Json
