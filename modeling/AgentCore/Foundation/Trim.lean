import Mathlib.Data.List.DropRight

/-! Trimming both ends of a list, and what a cut of the list does to its trimmed part. -/

namespace AgentCore.Foundation

open List

section Lists

variable {α : Type*} (p : α → Bool) {l : List α}

def trimList (l : List α) : List α := (l.dropWhile p).rdropWhile p

def Trimmed (l : List α) : Prop :=
  (∀ a ∈ l.head?, p a = false) ∧ ∀ a ∈ l.getLast?, p a = false

variable {p}

lemma dropWhile_blank_append (hu : ∀ a ∈ u, p a = true) : (u ++ l).dropWhile p = l.dropWhile p := by
  induction u with
  | nil => rfl
  | cons a u ih =>
    rw [cons_append, dropWhile_cons_of_pos (hu a (by simp))]
    exact ih fun b hb => hu b (mem_cons_of_mem _ hb)

lemma rdropWhile_append_blank (hv : ∀ a ∈ v, p a = true) :
    (l ++ v).rdropWhile p = l.rdropWhile p := by
  rw [rdropWhile, reverse_append, dropWhile_blank_append, rdropWhile]
  simpa using hv

lemma dropWhile_of_head (h : ∀ a ∈ l.head?, p a = false) : l.dropWhile p = l := by
  cases l with
  | nil => rfl
  | cons a l => exact dropWhile_cons_of_neg (by simp [h a rfl])

lemma rdropWhile_of_last (h : ∀ a ∈ l.getLast?, p a = false) : l.rdropWhile p = l := by
  rw [rdropWhile, dropWhile_of_head, reverse_reverse]
  simpa using h

lemma trimmed_trimList (l : List α) : Trimmed p (trimList p l) := by
  constructor
  · intro a ha
    have hne : (l.dropWhile p) ≠ [] := by
      rintro hnil
      simp [trimList, hnil] at ha
    obtain ⟨rest, hrest⟩ : ∃ rest, trimList p l = a :: rest := by
      cases h : trimList p l with
      | nil => simp [h] at ha
      | cons b rest => exact ⟨rest, by simpa [h] using ha⟩
    obtain ⟨tail, htail⟩ : trimList p l <+: l.dropWhile p := rdropWhile_prefix p _
    have hhead := head_dropWhile_not p hne
    simpa [← htail, hrest] using hhead
  · intro a ha
    obtain ⟨hne, rfl⟩ := mem_getLast?_eq_getLast ha
    have hlast := rdropWhile_last_not p (l.dropWhile p) hne
    exact Bool.eq_false_iff.mpr hlast

lemma trimList_of_trimmed (h : Trimmed p l) : trimList p l = l := by
  rw [trimList, dropWhile_of_head h.1, rdropWhile_of_last h.2]

lemma trimmed_append (ha : a ≠ []) (hb : b ≠ [])
    (hhead : ∀ x ∈ a.head?, p x = false) (hlast : ∀ x ∈ b.getLast?, p x = false) :
    Trimmed p (a ++ b) := by
  refine ⟨fun x hx => hhead x ?_, fun x hx => hlast x ?_⟩
  · rwa [head?_append_of_ne_nil _ ha] at hx
  · rwa [getLast?_append_of_ne_nil _ hb] at hx

lemma exists_ends (l : List α) :
    ∃ u v, l = u ++ (trimList p l ++ v) ∧ (∀ a ∈ u, p a = true) ∧ ∀ a ∈ v, p a = true := by
  refine ⟨l.takeWhile p, (l.dropWhile p).rtakeWhile p, ?_, ?_, ?_⟩
  · rw [trimList, rdropWhile_append_rtakeWhile, takeWhile_append_dropWhile]
  · intro a ha
    exact mem_takeWhile_imp ha
  · intro a ha
    exact mem_rtakeWhile_imp ha

lemma rdropWhile_ends (hm : m ≠ []) (h : Trimmed p m) (hv : ∀ a ∈ v, p a = true) :
    (u ++ (m ++ v)).rdropWhile p = u ++ m := by
  rw [← append_assoc, rdropWhile_append_blank hv, rdropWhile_of_last]
  intro a ha
  rw [getLast?_append_of_ne_nil _ hm] at ha
  exact h.2 a ha

lemma trimList_ends (h : Trimmed p m) (hu : ∀ a ∈ u, p a = true) (hv : ∀ a ∈ v, p a = true) :
    trimList p (u ++ (m ++ v)) = m := by
  rw [trimList, dropWhile_blank_append hu]
  cases m with
  | nil =>
    have hnil : v.dropWhile p = [] := dropWhile_eq_nil_iff.mpr hv
    simp [hnil]
  | cons a m =>
    rw [cons_append, dropWhile_cons_of_neg (by simp [h.1 a rfl]), ← cons_append,
      rdropWhile_append_blank hv, rdropWhile_of_last h.2]

lemma takeWhile_blank_append (hm : m ≠ []) (h : Trimmed p m) (hu : ∀ a ∈ u, p a = true) :
    (u ++ (m ++ v)).takeWhile p = u := by
  rw [takeWhile_append_of_pos hu]
  cases m with
  | nil => exact absurd rfl hm
  | cons a m =>
    rw [cons_append, takeWhile_cons_of_neg (by simp [h.1 a rfl]), append_nil]

/-- A cut keeps the trimmed part exactly when it only cuts into the blank end. -/
lemma trimList_take_eq_iff (h : trimList p l ≠ []) (n : Nat) :
    trimList p (l.take n) = trimList p l ↔ (l.rdropWhile p).length ≤ n := by
  obtain ⟨u, v, hl, hu, hv⟩ := exists_ends (p := p) l
  have htrim : Trimmed p (trimList p l) := trimmed_trimList l
  generalize trimList p l = m at *
  subst hl
  rw [rdropWhile_ends h htrim hv]
  constructor
  · intro heq
    obtain ⟨u', v', hcut, hu', -⟩ := exists_ends (p := p) ((u ++ (m ++ v)).take n)
    rw [heq] at hcut
    -- both readings start with the same blank run
    have hsplit := take_append_drop n (u ++ (m ++ v))
    rw [hcut, append_assoc, append_assoc] at hsplit
    have hsame : u' = u := by
      rw [← takeWhile_blank_append h htrim hu', hsplit, takeWhile_blank_append h htrim hu]
    have hlen := congrArg length hcut
    simp only [length_take, length_append] at hlen
    rw [hsame] at hlen
    rw [length_append]
    omega
  · intro hn
    rw [← append_assoc, take_append, take_of_length_le hn, append_assoc]
    exact trimList_ends htrim hu fun a ha => hv a (mem_of_mem_take ha)

end Lists

/-! ## Texts -/

variable {s : String}

def isWhitespace (c : Char) : Bool :=
  let n := c.toNat
  (9 ≤ n && n ≤ 13) || n == 0x20 || n == 0x85 || n == 0xa0 || n == 0x1680 ||
    (0x2000 ≤ n && n ≤ 0x200a) || n == 0x2028 || n == 0x2029 || n == 0x202f || n == 0x205f ||
    n == 0x3000

def trim (s : String) : String := String.ofList (trimList isWhitespace s.toList)

def trimEnd (s : String) : String := String.ofList (s.toList.rdropWhile isWhitespace)

structure Bare (s : String) : Prop where
  trim_eq : trim s = s
  ne : s ≠ ""

lemma trim_trim (s : String) : trim (trim s) = trim s := by
  rw [trim, trim, String.toList_ofList, trimList_of_trimmed (trimmed_trimList _)]

lemma bare_trim (h : trim s ≠ "") : Bare (trim s) := ⟨trim_trim s, h⟩

lemma Bare.trimmed (h : Bare s) : Trimmed isWhitespace s.toList := by
  have heq := congrArg String.toList h.trim_eq
  rw [trim, String.toList_ofList] at heq
  exact heq ▸ trimmed_trimList _

lemma bare_of_trimmed (h : Trimmed isWhitespace s.toList) (hne : s ≠ "") : Bare s := by
  refine ⟨?_, hne⟩
  rw [trim, trimList_of_trimmed h, String.ofList_toList]

lemma toList_ne_nil (h : s ≠ "") : s.toList ≠ [] := by
  simpa using h

lemma Bare.append (ha : Bare a) (hb : Bare b) : Bare (a ++ b) := by
  refine bare_of_trimmed ?_ ?_
  · rw [String.toList_append]
    exact trimmed_append (toList_ne_nil ha.ne) (toList_ne_nil hb.ne) ha.trimmed.1 hb.trimmed.2
  · simp [ha.ne]

lemma trim_take_eq_iff (h : trim s ≠ "") (n : Nat) :
    trim (String.ofList (s.toList.take n)) = trim s ↔ (trimEnd s).length ≤ n := by
  have hne : trimList isWhitespace s.toList ≠ [] := by
    intro hnil
    exact h (by rw [trim, hnil])
  rw [trim, trim, String.toList_ofList, String.ofList_inj, trimList_take_eq_iff hne, trimEnd,
    String.length_ofList]

end AgentCore.Foundation
