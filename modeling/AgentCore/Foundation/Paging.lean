import Mathlib.Data.List.Basic
import Mathlib.Data.Int.Order.Basic

/-! Reading an ordered table page by page. The cursor is the last number that was read; a
page holds the next matching rows after it and tells whether there are more. -/

namespace AgentCore.Foundation

open List

variable {α : Type} (number : α → Int) (p : α → Bool)

structure Page (α : Type) where
  items : List α
  next : Int
  more : Bool

def beyond (rows : List α) (cursor : Int) : List α :=
  rows.filter fun r => decide (cursor < number r) && p r

def upTo (rows : List α) (cursor : Int) : List α :=
  rows.filter fun r => decide (number r ≤ cursor) && p r

def readPage (rows : List α) (cursor : Int) (limit : Nat) : Page α :=
  let fetched := (beyond number p rows cursor).take (limit + 1)
  let more := decide (limit < fetched.length)
  let items := if more then fetched.take limit else fetched
  ⟨items, (items.getLast?.map number).getD cursor, more⟩

variable {number p} {rows : List α} {cursor : Int} {limit : Nat}

lemma readPage_more : (readPage number p rows cursor limit).more = true ↔
    limit < (beyond number p rows cursor).length := by
  simp only [readPage, length_take, decide_eq_true_eq]
  omega

lemma readPage_items : (readPage number p rows cursor limit).items =
    (beyond number p rows cursor).take limit := by
  simp only [readPage, length_take, decide_eq_true_eq]
  split
  · rw [take_take, Nat.min_eq_left (Nat.le_succ limit)]
  · next h =>
    have hshort : (beyond number p rows cursor).length ≤ limit := by omega
    rw [take_of_length_le hshort, take_of_length_le (by omega)]

lemma readPage_next : (readPage number p rows cursor limit).next =
    (((beyond number p rows cursor).take limit).getLast?.map number).getD cursor := by
  rw [← readPage_items]
  rfl

/-- In an ordered table the rows up to the cursor come before those after it. -/
lemma upTo_append_beyond (p : α → Bool) (cursor : Int)
    (h : rows.Pairwise fun r s => number r < number s) :
    upTo number p rows cursor ++ beyond number p rows cursor = rows.filter p := by
  induction rows with
  | nil => rfl
  | cons r rows ih =>
    obtain ⟨hr, hrows⟩ := pairwise_cons.mp h
    by_cases hle : number r ≤ cursor
    · have hlt : ¬ cursor < number r := by omega
      have hcons := ih hrows
      rw [upTo, beyond] at hcons ⊢
      by_cases hp : p r = true <;> simp [hle, hlt, hp, hcons]
    · -- the first row beyond the cursor has only such rows after it
      have hbeyond : ∀ s ∈ rows, ¬ number s ≤ cursor := fun s hs => by
        have := hr s hs
        omega
      have hnone : upTo number p rows cursor = [] := by
        refine filter_eq_nil_iff.mpr fun s hs => ?_
        simp [hbeyond s hs]
      have hall : beyond number p rows cursor = rows.filter p := by
        refine filter_congr fun s hs => ?_
        simp [not_le.mp (hbeyond s hs)]
      simp only [upTo, beyond] at hnone hall ⊢
      rw [filter_cons, filter_cons, hnone, hall, filter_cons]
      simp [hle, not_le.mp hle]

lemma mem_upTo : r ∈ upTo number p rows cursor ↔ r ∈ rows ∧ number r ≤ cursor ∧ p r = true := by
  simp [upTo]

lemma mem_beyond : r ∈ beyond number p rows cursor ↔ r ∈ rows ∧ cursor < number r ∧ p r = true := by
  simp [beyond]

lemma upTo_next (h : rows.Pairwise fun r s => number r < number s) :
    upTo number p rows (readPage number p rows cursor limit).next =
      upTo number p rows cursor ++ (readPage number p rows cursor limit).items := by
  rw [readPage_next, readPage_items]
  have hbeyond : (beyond number p rows cursor).Pairwise fun r s => number r < number s :=
    h.filter _
  rcases eq_nil_or_concat ((beyond number p rows cursor).take limit) with hnil | ⟨init, l, hlast⟩
  · rw [hnil, append_nil]
    rfl
  rw [concat_eq_append] at hlast
  have hnext : ((((beyond number p rows cursor).take limit).getLast?).map number).getD cursor =
      number l := by simp [hlast]
  rw [hnext]
  -- cut the ordered matching rows at the cursor and at the last row of the page
  have hcut : rows.filter p = upTo number p rows cursor ++ (init ++ [l]) ++
      (beyond number p rows cursor).drop limit := by
    rw [← upTo_append_beyond p cursor h, ← hlast, append_assoc, take_append_drop]
  have hl : l ∈ beyond number p rows cursor :=
    mem_of_mem_take (by rw [hlast]; exact mem_append_right _ (mem_singleton_self l))
  have hbefore : ∀ r ∈ upTo number p rows cursor ++ (init ++ [l]), number r ≤ number l := by
    intro r hr
    rw [← hlast] at hr
    rcases mem_append.mp hr with hr | hr
    · exact Int.le_of_lt (Int.lt_of_le_of_lt (mem_upTo.mp hr).2.1 (mem_beyond.mp hl).2.1)
    · have htake : ((beyond number p rows cursor).take limit).Pairwise fun r s => number r < number s :=
        hbeyond.sublist (take_sublist _ _)
      rw [hlast] at hr htake
      rcases mem_append.mp hr with hr | hr
      · exact Int.le_of_lt ((pairwise_append.mp htake).2.2 r hr l (mem_singleton_self l))
      · rw [mem_singleton.mp hr]
  have hafter : ∀ r ∈ (beyond number p rows cursor).drop limit, number l < number r := by
    have hsplit := hbeyond
    rw [← take_append_drop limit (beyond number p rows cursor), pairwise_append] at hsplit
    intro r hr
    exact hsplit.2.2 l (by rw [hlast]; exact mem_append_right _ (mem_singleton_self l)) r hr
  have hfilter : upTo number p rows (number l) =
      (rows.filter p).filter fun r => decide (number r ≤ number l) := by
    rw [upTo, filter_filter]
  rw [hfilter, hcut, filter_append, filter_eq_self.mpr, filter_eq_nil_iff.mpr,
    append_nil, hlast]
  · intro r hr
    have := hafter r hr
    simp only [decide_eq_true_eq]
    omega
  · intro r hr
    simpa using hbefore r hr

/-- A page without more completes what was read before it. -/
lemma filter_eq_of_last (h : rows.Pairwise fun r s => number r < number s)
    (hlast : (readPage number p rows cursor limit).more = false) :
    rows.filter p = upTo number p rows cursor ++ (readPage number p rows cursor limit).items := by
  have hshort : (beyond number p rows cursor).length ≤ limit := by
    by_contra hlong
    rw [readPage_more.mpr (Nat.lt_of_not_le hlong)] at hlast
    cases hlast
  rw [readPage_items, take_of_length_le hshort, upTo_append_beyond p cursor h]

lemma beyond_next_lt (h : rows.Pairwise fun r s => number r < number s) (hlimit : 0 < limit)
    (hmore : (readPage number p rows cursor limit).more = true) :
    (beyond number p rows (readPage number p rows cursor limit).next).length <
      (beyond number p rows cursor).length := by
  have hlong := readPage_more.mp hmore
  have hitems : (readPage number p rows cursor limit).items.length = limit := by
    rw [readPage_items, length_take, Nat.min_eq_left (Nat.le_of_lt hlong)]
  have hold := congrArg length (upTo_append_beyond p cursor h)
  have hnew := congrArg length
    (upTo_append_beyond p (readPage number p rows cursor limit).next h)
  rw [upTo_next h] at hnew
  simp only [length_append, hitems] at hold hnew
  omega

/-- The items of a page stand between the old cursor and the new one. -/
lemma append_items_sublist (h : rows.Pairwise fun r s => number r < number s) :
    (upTo number (fun _ => true) rows cursor ++ (readPage number p rows cursor limit).items).Sublist
      (upTo number (fun _ => true) rows (readPage number p rows cursor limit).next) := by
  -- the page is also one of the selection that has every row up to the cursor
  let q := fun r => decide (number r ≤ cursor) || p r
  have hpast : upTo number q rows cursor = upTo number (fun _ => true) rows cursor :=
    filter_congr fun r _ => by grind
  have hbeyond : beyond number q rows cursor = beyond number p rows cursor :=
    filter_congr fun r _ => by grind
  have hpage : readPage number q rows cursor limit = readPage number p rows cursor limit := by
    simp only [readPage, hbeyond]
  rw [← hpast, ← hpage, ← upTo_next h]
  exact monotone_filter_right rows fun r hr => by simp_all

end AgentCore.Foundation
