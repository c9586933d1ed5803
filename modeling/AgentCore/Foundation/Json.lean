import Mathlib.Data.List.Sort
import Mathlib.Data.String.Basic

/-! JSON values with ordered objects and their compact text. An object keeps its members
in strict key order, as a map backed by a search tree iterates them, so equal objects
have equal texts. A binary64 number is named by the shortest decimal that reads back to
it: that text is all a printer shows of it. -/

namespace AgentCore.Foundation

open List

variable {k : String}

inductive JsonNumber
  | int (z : Int)
  | float (text : String)
deriving DecidableEq

inductive Json
  | null
  | bool (b : Bool)
  | num (n : JsonNumber)
  | str (s : String)
  | arr (items : List Json)
  | obj (fields : List (String × Json))

namespace Json

variable {fs acc : List (String × Json)} {v : Json} {f : String × Json}

instance : Inhabited Json := ⟨null⟩

mutual

def decEq : (a b : Json) → Decidable (a = b)
  | null, null => isTrue rfl
  | bool a, bool b =>
    if h : a = b then isTrue (by rw [h]) else isFalse (fun e => h (bool.inj e))
  | num a, num b =>
    if h : a = b then isTrue (by rw [h]) else isFalse (fun e => h (num.inj e))
  | str a, str b =>
    if h : a = b then isTrue (by rw [h]) else isFalse (fun e => h (str.inj e))
  | arr a, arr b =>
    match decEqItems a b with
    | isTrue h => isTrue (by rw [h])
    | isFalse h => isFalse (fun e => h (arr.inj e))
  | obj a, obj b =>
    match decEqFields a b with
    | isTrue h => isTrue (by rw [h])
    | isFalse h => isFalse (fun e => h (obj.inj e))
  | null, bool _ | null, num _ | null, str _ | null, arr _ | null, obj _ => isFalse (by simp)
  | bool _, null | bool _, num _ | bool _, str _ | bool _, arr _ | bool _, obj _ =>
    isFalse (by simp)
  | num _, null | num _, bool _ | num _, str _ | num _, arr _ | num _, obj _ =>
    isFalse (by simp)
  | str _, null | str _, bool _ | str _, num _ | str _, arr _ | str _, obj _ =>
    isFalse (by simp)
  | arr _, null | arr _, bool _ | arr _, num _ | arr _, str _ | arr _, obj _ =>
    isFalse (by simp)
  | obj _, null | obj _, bool _ | obj _, num _ | obj _, str _ | obj _, arr _ =>
    isFalse (by simp)

def decEqItems : (a b : List Json) → Decidable (a = b)
  | [], [] => isTrue rfl
  | [], _ :: _ => isFalse (by simp)
  | _ :: _, [] => isFalse (by simp)
  | a :: as, b :: bs =>
    match decEq a b, decEqItems as bs with
    | isTrue h, isTrue h' => isTrue (by rw [h, h'])
    | isFalse h, _ => isFalse (fun e => h (cons.inj e).1)
    | _, isFalse h => isFalse (fun e => h (cons.inj e).2)

def decEqFields : (a b : List (String × Json)) → Decidable (a = b)
  | [], [] => isTrue rfl
  | [], _ :: _ => isFalse (by simp)
  | _ :: _, [] => isFalse (by simp)
  | (k, a) :: as, (l, b) :: bs =>
    match instDecidableEqString k l, decEq a b, decEqFields as bs with
    | isTrue h₀, isTrue h, isTrue h' => isTrue (by rw [h₀, h, h'])
    | isFalse h, _, _ => isFalse (fun e => h (Prod.mk.inj (cons.inj e).1).1)
    | _, isFalse h, _ => isFalse (fun e => h (Prod.mk.inj (cons.inj e).1).2)
    | _, _, isFalse h => isFalse (fun e => h (cons.inj e).2)

end

instance : DecidableEq Json := decEq

/-! ## Objects -/

def insertField (k : String) (v : Json) : List (String × Json) → List (String × Json)
  | [] => [(k, v)]
  | (k', v') :: fs =>
    if k < k' then (k, v) :: (k', v') :: fs
    else if k = k' then (k, v) :: fs
    else (k', v') :: insertField k v fs

def insertFields (fs : List (String × Json)) (acc : List (String × Json)) :
    List (String × Json) := fs.foldl (fun acc f => insertField f.1 f.2 acc) acc

def mkObj (fs : List (String × Json)) : Json := obj (insertFields fs [])

def ofOption : Option String → Json
  | some s => str s
  | none => null

def get (v : Json) (k : String) : Option Json :=
  match v with
  | obj fs => fs.lookup k
  | _ => none

def removeField (k : String) (fs : List (String × Json)) : List (String × Json) :=
  fs.filter fun f => f.1 ≠ k

def asStr : Json → Option String
  | str s => some s
  | _ => none

def asArray : Json → Option (List Json)
  | arr xs => some xs
  | _ => none

@[simp] lemma asStr_str (s : String) : (str s).asStr = some s := rfl

@[simp] lemma asStr_null : null.asStr = none := rfl

@[simp] lemma asStr_ofOption (o : Option String) : (ofOption o).asStr = o := by
  cases o <;> rfl

lemma lookup_cons_eq (k : String) (v : Json) (fs : List (String × Json)) (q : String) :
    ((k, v) :: fs).lookup q = if q = k then some v else fs.lookup q := by
  by_cases hq : q = k
  · simp [hq]
  · rw [lookup_cons, if_neg hq, beq_eq_false_iff_ne.mpr hq]

lemma lookup_insertField (k : String) (v : Json) (fs : List (String × Json)) (q : String) :
    (insertField k v fs).lookup q = if q = k then some v else fs.lookup q := by
  induction fs with
  | nil => exact lookup_cons_eq k v [] q
  | cons f fs ih =>
    obtain ⟨k', v'⟩ := f
    rw [insertField]
    split_ifs with hlt heq hq hq' <;> simp only [lookup_cons_eq, ih] <;> grind

lemma lookup_insertFields (fs acc : List (String × Json)) (q : String) :
    (insertFields fs acc).lookup q = (fs.reverse.lookup q).or (acc.lookup q) := by
  induction fs generalizing acc with
  | nil => simp [insertFields]
  | cons f fs ih =>
    obtain ⟨k, v⟩ := f
    have hstep : insertFields ((k, v) :: fs) acc = insertFields fs (insertField k v acc) := rfl
    have hlast : lookup q [(k, v)] = if q = k then some v else none := by
      rw [lookup_cons_eq, lookup_nil]
    rw [hstep, ih, lookup_insertField, reverse_cons, lookup_append, hlast, Option.or_assoc]
    split_ifs <;> rfl

lemma get_mkObj (fs : List (String × Json)) (q : String) :
    (mkObj fs).get q = fs.reverse.lookup q := by
  simp [mkObj, get, lookup_insertFields]

lemma get_mkObj_of_mem (hkeys : (fs.map Prod.fst).Nodup) (h : (k, v) ∈ fs) :
    (mkObj fs).get k = some v := by
  rw [get_mkObj]
  have hkeys' : (fs.reverse.map Prod.fst).Nodup := by
    rw [map_reverse]
    exact nodup_reverse.mpr hkeys
  have h' : (k, v) ∈ fs.reverse := mem_reverse.mpr h
  generalize fs.reverse = gs at hkeys' h'
  induction gs with
  | nil => exact absurd h' not_mem_nil
  | cons g gs ih =>
    rw [lookup_cons_eq g.1 g.2 gs k]
    rw [map_cons, nodup_cons] at hkeys'
    rcases mem_cons.mp h' with rfl | h'
    · exact if_pos rfl
    · have hne : ¬k = g.1 := by
        rintro rfl
        exact hkeys'.1 (mem_map.mpr ⟨_, h', rfl⟩)
      rw [if_neg hne]
      exact ih hkeys'.2 h'

def KeysSorted (fs : List (String × Json)) : Prop := fs.Pairwise (fun f g => f.1 < g.1)

instance (fs : List (String × Json)) : Decidable (KeysSorted fs) :=
  inferInstanceAs (Decidable (fs.Pairwise _))

lemma keysSorted_nil : KeysSorted [] := List.Pairwise.nil

lemma keysSorted_cons : KeysSorted ((k, v) :: fs) ↔ (∀ f ∈ fs, k < f.1) ∧ KeysSorted fs := by
  simp [KeysSorted]

lemma mem_insertField (h : f ∈ insertField k v fs) : f = (k, v) ∨ f ∈ fs := by
  induction fs with
  | nil => simpa [insertField] using h
  | cons g fs ih =>
    obtain ⟨k', v'⟩ := g
    simp only [insertField] at h
    split_ifs at h with hlt heq
    · exact mem_cons.mp h
    · rcases mem_cons.mp h with h | h
      · exact .inl h
      · exact .inr (mem_cons_of_mem _ h)
    · rcases mem_cons.mp h with h | h
      · exact .inr (by simp [h])
      · exact (ih h).imp_right (mem_cons_of_mem _)

lemma keysSorted_insertField (k : String) (v : Json) (h : KeysSorted fs) :
    KeysSorted (insertField k v fs) := by
  induction fs with
  | nil => simp [insertField, keysSorted_cons, keysSorted_nil]
  | cons g fs ih =>
    obtain ⟨k', v'⟩ := g
    obtain ⟨hk', hfs⟩ := keysSorted_cons.mp h
    simp only [insertField]
    split_ifs with hlt heq
    · refine keysSorted_cons.mpr ⟨?_, h⟩
      intro f hf
      rcases mem_cons.mp hf with rfl | hf
      · exact hlt
      · exact hlt.trans (hk' f hf)
    · subst heq
      exact keysSorted_cons.mpr ⟨hk', hfs⟩
    · refine keysSorted_cons.mpr ⟨?_, ih hfs⟩
      intro f hf
      rcases mem_insertField hf with rfl | hf
      · exact lt_of_le_of_ne (not_lt.mp hlt) (Ne.symm heq)
      · exact hk' f hf

lemma keysSorted_insertFields (fs : List (String × Json)) (h : KeysSorted acc) :
    KeysSorted (insertFields fs acc) := by
  induction fs generalizing acc with
  | nil => exact h
  | cons f fs ih => exact ih (keysSorted_insertField f.1 f.2 h)

lemma mem_insertFields (h : f ∈ insertFields fs acc) : f ∈ fs ∨ f ∈ acc := by
  induction fs generalizing acc with
  | nil => exact .inr h
  | cons g fs ih =>
    rcases ih h with h | h
    · exact .inl (mem_cons_of_mem _ h)
    · rcases mem_insertField h with h | h
      · exact .inl (by rw [h]; simp)
      · exact .inr h

lemma insertField_of_lt (h : ∀ f ∈ fs, f.1 < k) : insertField k v fs = fs ++ [(k, v)] := by
  induction fs with
  | nil => rfl
  | cons g fs ih =>
    obtain ⟨k', v'⟩ := g
    have hk' : k' < k := h (k', v') (by simp)
    rw [insertField, if_neg hk'.not_gt, if_neg hk'.ne', ih (fun f hf => h f (by simp [hf]))]
    rfl

lemma removeField_insertField (k : String) (v : Json) (fs : List (String × Json)) :
    removeField k (insertField k v fs) = removeField k fs := by
  induction fs with
  | nil => simp [insertField, removeField]
  | cons f fs ih =>
    simp only [insertField]
    split_ifs with hlt heq
    · simp [removeField]
    · simp [removeField, heq]
    · simp only [removeField, filter_cons] at ih ⊢
      rw [ih]

lemma removeField_eq_self : removeField k fs = fs ↔ fs.lookup k = none := by
  rw [removeField, filter_eq_self, lookup_eq_none_iff]
  simp only [ne_eq, decide_eq_true_eq, bne_iff_ne, @eq_comm _ k]

/-! ## Compact text -/

def hexDigit (n : Nat) : Char := (n.digitChar)

def escapeChar (c : Char) : List Char :=
  if c = '"' then ['\\', '"']
  else if c = '\\' then ['\\', '\\']
  else if c = '\x08' then ['\\', 'b']
  else if c = '\x0c' then ['\\', 'f']
  else if c = '\n' then ['\\', 'n']
  else if c = '\r' then ['\\', 'r']
  else if c = '\t' then ['\\', 't']
  else if c.toNat < 0x20 then
    ['\\', 'u', '0', '0', hexDigit (c.toNat / 16), hexDigit (c.toNat % 16)]
  else [c]

def printString (s : String) : List Char := '"' :: (s.toList.flatMap escapeChar ++ ['"'])

def printNumber : JsonNumber → List Char
  | .int z => if z < 0 then '-' :: Nat.toDigits 10 z.natAbs else Nat.toDigits 10 z.natAbs
  | .float text => text.toList

mutual

def print : Json → List Char
  | null => ['n', 'u', 'l', 'l']
  | bool true => ['t', 'r', 'u', 'e']
  | bool false => ['f', 'a', 'l', 's', 'e']
  | num n => printNumber n
  | str s => printString s
  | arr [] => ['[', ']']
  | arr (x :: xs) => '[' :: (print x ++ printItems xs)
  | obj [] => ['{', '}']
  | obj ((k, v) :: fs) => '{' :: (printString k ++ ':' :: (print v ++ printFields fs))

def printItems : List Json → List Char
  | [] => [']']
  | x :: xs => ',' :: (print x ++ printItems xs)

def printFields : List (String × Json) → List Char
  | [] => ['}']
  | (k, v) :: fs => ',' :: (printString k ++ ':' :: (print v ++ printFields fs))

end

def toText (v : Json) : String := String.ofList (print v)

def printField (f : String × Json) : List Char := printString f.1 ++ ':' :: print f.2

lemma printField_infix_printFields (h : f ∈ fs) : printField f <:+: printFields fs := by
  induction fs with
  | nil => cases h
  | cons g fs ih =>
    obtain ⟨k, v⟩ := g
    rw [printFields]
    rcases mem_cons.mp h with rfl | h
    · exact ⟨[','], printFields fs, by simp [printField]⟩
    · have hsuffix : printFields fs <:+: ',' :: (printString k ++ ':' :: (print v ++ printFields fs)) :=
        ⟨',' :: (printString k ++ ':' :: print v), [], by simp⟩
      exact (ih h).trans hsuffix

lemma printField_infix_print (h : f ∈ fs) : printField f <:+: print (obj fs) := by
  cases fs with
  | nil => cases h
  | cons g fs =>
    obtain ⟨k, v⟩ := g
    rw [print]
    rcases mem_cons.mp h with rfl | h
    · exact ⟨['{'], printFields fs, by simp [printField]⟩
    · have hsuffix : printFields fs <:+: '{' :: (printString k ++ ':' :: (print v ++ printFields fs)) :=
        ⟨'{' :: (printString k ++ ':' :: print v), [], by simp⟩
      exact (printField_infix_printFields h).trans hsuffix

lemma mem_of_lookup (h : fs.lookup k = some v) : (k, v) ∈ fs := by
  induction fs with
  | nil => cases h
  | cons f fs ih =>
    obtain ⟨k', v'⟩ := f
    rw [lookup_cons_eq] at h
    split_ifs at h with hk
    · rw [hk, Option.some.inj h]
      exact mem_cons_self
    · exact mem_cons_of_mem _ (ih h)

lemma printField_infix_of_get (h : v.get k = some x) : printField (k, x) <:+: print v := by
  cases v with
  | obj fs => exact printField_infix_print (mem_of_lookup h)
  | _ => cases h

end Json

end AgentCore.Foundation
