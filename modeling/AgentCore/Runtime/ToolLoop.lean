import AgentCore.Foundation.JsonText

/-! The text by which the tool loop tells a repeated call from a new one. -/

namespace AgentCore.Runtime

open Foundation

/-- The source sorts the keys before it enters them into the new map, which keeps them in that
order. -/
def canonicalizeArgsJson (val : Json) : String := val.sortKeys.toText

theorem canonicalize_args_eq_iff (readFloat : String → Option String) {a b : Json}
    (ha : a.UniqueKeys) (hb : b.UniqueKeys) (hla : a.legible readFloat = true)
    (hlb : b.legible readFloat = true) :
    canonicalizeArgsJson a = canonicalizeArgsJson b ↔ a.SameMembers b := by
  constructor
  · intro h
    have hsorted := Json.toText_inj (Json.legible_sortKeys ha hla) (Json.legible_sortKeys hb hlb) h
    rw [Json.sortKeys_sortKeys ha, Json.sortKeys_sortKeys hb] at hsorted
    exact Json.sameMembers_of_sortKeys ha hb hsorted
  · intro h
    exact congrArg Json.toText (h.sortKeys ha hb)

theorem canonicalize_args_eq_iff_swapped :
    canonicalizeArgsJson (.obj [("b", .null), ("a", .num (.int 1))]) =
      canonicalizeArgsJson (.obj [("a", .num (.int 1)), ("b", .null)]) ↔
    Json.SameMembers (.obj [("b", .null), ("a", .num (.int 1))])
      (.obj [("a", .num (.int 1)), ("b", .null)]) := by
  have hvalues : ∀ f ∈ [("b", Json.null), ("a", .num (.int 1))], f.2.UniqueKeys := by
    intro f hf
    refine .scalar (fun xs heq => ?_) fun fs heq => ?_ <;> simp at hf <;>
      rcases hf with rfl | rfl <;> cases heq
  exact canonicalize_args_eq_iff some (.obj (by decide) hvalues)
    (.obj (by decide) fun f hf => hvalues f (by simpa [or_comm] using hf)) (by decide) (by decide)

end AgentCore.Runtime
