import Mathlib.Algebra.Group.Int.Defs
import Mathlib.Data.List.TakeWhile
import AgentCore.Foundation.Json

/-! A JSON reader over characters. The reader of fractions, exponents and out-of-range
integers is a parameter that answers with the canonical text of the number it read.
`parse_toText` is the round trip: what the printer writes of a well-formed value reads
back as that value. -/

namespace AgentCore.Foundation

open List

namespace Json

/-! ## Tokens -/

variable {c : Char} {n : Nat} {cs rest : List Char} {readFloat : String → Option String} {v : Json}
  {fs : List (String × Json)}

def isWs (c : Char) : Bool := c = ' ' || c = '\n' || c = '\t' || c = '\r'

def skipWs (cs : List Char) : List Char := cs.dropWhile isWs

def isNumberChar (c : Char) : Bool :=
  c.isDigit || c = '-' || c = '+' || c = '.' || c = 'e' || c = 'E'

def hexValue (c : Char) : Option Nat :=
  if '0' ≤ c ∧ c ≤ '9' then some (c.toNat - '0'.toNat)
  else if 'a' ≤ c ∧ c ≤ 'f' then some (c.toNat - 'a'.toNat + 10)
  else if 'A' ≤ c ∧ c ≤ 'F' then some (c.toNat - 'A'.toNat + 10)
  else none

def readHex4 : List Char → Option (Nat × List Char)
  | a :: b :: c :: d :: cs => do
    let a ← hexValue a
    let b ← hexValue b
    let c ← hexValue c
    let d ← hexValue d
    some (((a * 16 + b) * 16 + c) * 16 + d, cs)
  | _ => none

/-- The character after `\u`: a leading surrogate needs its trailing one. -/
def readUnicode (cs : List Char) : Option (Char × List Char) := do
  let (hi, cs) ← readHex4 cs
  if 0xDC00 ≤ hi ∧ hi ≤ 0xDFFF then none
  else if 0xD800 ≤ hi ∧ hi ≤ 0xDBFF then
    match cs with
    | b :: u :: cs =>
      if b = '\\' ∧ u = 'u' then do
        let (lo, cs) ← readHex4 cs
        if 0xDC00 ≤ lo ∧ lo ≤ 0xDFFF then
          some (Char.ofNat ((hi - 0xD800) * 0x400 + (lo - 0xDC00) + 0x10000), cs)
        else none
      else none
    | _ => none
  else some (Char.ofNat hi, cs)

def readEscape : List Char → Option (Char × List Char)
  | [] => none
  | c :: cs =>
    if c = '"' ∨ c = '\\' ∨ c = '/' then some (c, cs)
    else if c = 'b' then some ('\x08', cs)
    else if c = 'f' then some ('\x0c', cs)
    else if c = 'n' then some ('\n', cs)
    else if c = 'r' then some ('\r', cs)
    else if c = 't' then some ('\t', cs)
    else if c = 'u' then readUnicode cs
    else none

def readChars : Nat → List Char → Option (List Char × List Char)
  | 0, _ => none
  | _ + 1, [] => none
  | fuel + 1, c :: cs =>
    if c = '"' then some ([], cs)
    else if c = '\\' then do
      let (c, cs) ← readEscape cs
      let (s, cs) ← readChars fuel cs
      some (c :: s, cs)
    else if c.toNat < 0x20 then none
    else do
      let (s, cs) ← readChars fuel cs
      some (c :: s, cs)

def digitsThen (cs : List Char) : Option (List Char) :=
  match cs with
  | c :: _ => if c.isDigit then some (cs.dropWhile Char.isDigit) else none
  | [] => none

def validExponent : List Char → Bool
  | [] => true
  | e :: cs =>
    if e = 'e' ∨ e = 'E' then
      match cs with
      | s :: ds => digitsThen (if s = '+' ∨ s = '-' then ds else cs) = some []
      | [] => false
    else false

def validFraction : List Char → Bool
  | '.' :: cs =>
    match digitsThen cs with
    | some cs => validExponent cs
    | none => false
  | cs => validExponent cs

def readNumber (readFloat : String → Option String) (lexeme : List Char) :
    Option JsonNumber :=
  let neg := lexeme.head? = some '-'
  let body := if neg then lexeme.tail else lexeme
  let digits := body.takeWhile Char.isDigit
  let after := body.dropWhile Char.isDigit
  let float := (readFloat (String.ofList lexeme)).map JsonNumber.float
  if digits = [] ∨ (digits.head? = some '0' ∧ digits.length ≠ 1) then none
  else if after = [] then
    let n := Nat.ofDigitChars 10 digits 0
    if neg then if n = 0 ∨ 2 ^ 63 < n then float else some (.int (-(n : Int)))
    else if n < 2 ^ 64 then some (.int n) else float
  else if validFraction after then float
  else none

/-! ## Values -/

section Parse

variable (readFloat : String → Option String)

mutual

/-- A value after optional blanks. `depth` is the nesting still allowed: a container is
entered only while at least one level remains below it. -/
def parseValue : Nat → Nat → List Char → Option (Json × List Char)
  | 0, _, _ => none
  | fuel + 1, depth, cs =>
    match skipWs cs with
    | [] => none
    | c :: cs =>
      if c = 'n' then if cs.take 3 = ['u', 'l', 'l'] then some (null, cs.drop 3) else none
      else if c = 't' then
        if cs.take 3 = ['r', 'u', 'e'] then some (bool true, cs.drop 3) else none
      else if c = 'f' then
        if cs.take 4 = ['a', 'l', 's', 'e'] then some (bool false, cs.drop 4) else none
      else if c = '"' then do
        let (s, cs) ← readChars fuel cs
        some (str (String.ofList s), cs)
      else if c = '[' then
        if depth ≤ 1 then none
        else
          match skipWs cs with
          | [] => none
          | d :: ds =>
            if d = ']' then some (arr [], ds)
            else do
              let (x, cs) ← parseValue fuel (depth - 1) (d :: ds)
              let (xs, cs) ← parseItems fuel (depth - 1) cs
              some (arr (x :: xs), cs)
      else if c = '{' then
        if depth ≤ 1 then none
        else
          match skipWs cs with
          | [] => none
          | d :: ds =>
            if d = '}' then some (obj [], ds)
            else do
              let (fs, cs) ← parseField fuel (depth - 1) (d :: ds) []
              some (obj fs, cs)
      else if c = '-' ∨ c.isDigit then do
        let n ← readNumber readFloat ((c :: cs).takeWhile isNumberChar)
        some (num n, (c :: cs).dropWhile isNumberChar)
      else none

def parseItems : Nat → Nat → List Char → Option (List Json × List Char)
  | 0, _, _ => none
  | fuel + 1, depth, cs =>
    match skipWs cs with
    | [] => none
    | c :: cs =>
      if c = ']' then some ([], cs)
      else if c = ',' then do
        let (x, cs) ← parseValue fuel depth cs
        let (xs, cs) ← parseItems fuel depth cs
        some (x :: xs, cs)
      else none

def parseField : Nat → Nat → List Char → List (String × Json) →
    Option (List (String × Json) × List Char)
  | 0, _, _, _ => none
  | fuel + 1, depth, cs, acc =>
    match skipWs cs with
    | [] => none
    | q :: cs =>
      if q = '"' then do
        let (k, cs) ← readChars fuel cs
        match skipWs cs with
        | [] => none
        | c :: cs =>
          if c = ':' then do
            let (v, cs) ← parseValue fuel depth cs
            let acc := insertField (String.ofList k) v acc
            match skipWs cs with
            | [] => none
            | c :: cs =>
              if c = '}' then some (acc, cs)
              else if c = ',' then parseField fuel depth cs acc
              else none
          else none
      else none

end

def parse (s : String) : Option Json := do
  let (v, cs) ← parseValue readFloat s.length 128 s.toList
  if skipWs cs = [] then some v else none

end Parse

/-! ## What the printer writes, the reader reads -/

lemma skipWs_cons (h : isWs c = false) (cs : List Char) : skipWs (c :: cs) = c :: cs := by
  simp [skipWs, h]

lemma hexValue_hexDigit (h : n < 16) : hexValue (hexDigit n) = some n := by
  have hall : ∀ m < 16, hexValue (hexDigit m) = some m := by decide
  exact hall n h

lemma readEscape_control (h : c.toNat < 0x20) (cs : List Char) :
    readEscape ('u' :: '0' :: '0' :: hexDigit (c.toNat / 16) :: hexDigit (c.toNat % 16) :: cs) =
      some (c, cs) := by
  have h0 : hexValue '0' = some 0 := by decide
  have hhi : hexValue (hexDigit (c.toNat / 16)) = some (c.toNat / 16) :=
    hexValue_hexDigit (by omega)
  have hlo : hexValue (hexDigit (c.toNat % 16)) = some (c.toNat % 16) :=
    hexValue_hexDigit (by omega)
  have hcode : ((0 * 16 + 0) * 16 + c.toNat / 16) * 16 + c.toNat % 16 = c.toNat := by omega
  have hhex : readHex4 ('0' :: '0' :: hexDigit (c.toNat / 16) :: hexDigit (c.toNat % 16) :: cs) =
      some (c.toNat, cs) := by
    simp only [readHex4, h0, hhi, hlo, Option.bind_eq_bind, Option.bind_some, hcode]
  have hsur : ¬(0xDC00 ≤ c.toNat ∧ c.toNat ≤ 0xDFFF) := by omega
  have hsur' : ¬(0xD800 ≤ c.toNat ∧ c.toNat ≤ 0xDBFF) := by omega
  have hunicode : readUnicode
      ('0' :: '0' :: hexDigit (c.toNat / 16) :: hexDigit (c.toNat % 16) :: cs) = some (c, cs) := by
    simp only [readUnicode, hhex, Option.bind_eq_bind, Option.bind_some, if_neg hsur,
      if_neg hsur', Char.ofNat_toNat]
  simpa [readEscape] using hunicode

lemma readChars_escapeChar (c : Char) (fuel : Nat) (cs : List Char) :
    readChars (fuel + 1) (escapeChar c ++ cs) =
      (readChars fuel cs).map (fun r => (c :: r.1, r.2)) := by
  have hopt : ∀ o : Option (List Char × List Char),
      (do let (s, cs) ← o; some (c :: s, cs)) = o.map (fun r => (c :: r.1, r.2)) := by
    intro o
    cases o <;> rfl
  unfold escapeChar
  split_ifs with h1 h2 h3 h4 h5 h6 h7 h8
  case pos => subst h1; rw [← hopt]; rfl
  case pos => subst h2; rw [← hopt]; rfl
  case pos => subst h3; rw [← hopt]; rfl
  case pos => subst h4; rw [← hopt]; rfl
  case pos => subst h5; rw [← hopt]; rfl
  case pos => subst h6; rw [← hopt]; rfl
  case pos => subst h7; rw [← hopt]; rfl
  case pos =>
    rw [← hopt]
    simp only [cons_append, nil_append, readChars, reduceIte,
      readEscape_control h8, Option.bind_eq_bind, Option.bind_some]
    rfl
  case neg =>
    rw [← hopt]
    simp only [cons_append, nil_append, readChars, if_neg h1, if_neg h2, if_neg h8]

lemma readChars_print (s rest : List Char) (fuel : Nat) (h : s.length < fuel) :
    readChars fuel (s.flatMap escapeChar ++ '"' :: rest) = some (s, rest) := by
  induction s generalizing fuel with
  | nil =>
    obtain ⟨fuel, rfl⟩ := Nat.exists_eq_succ_of_ne_zero (Nat.ne_of_gt h)
    rfl
  | cons c s ih =>
    obtain ⟨fuel, rfl⟩ := Nat.exists_eq_succ_of_ne_zero (Nat.ne_of_gt (Nat.zero_lt_of_lt h))
    rw [flatMap_cons, append_assoc, Nat.succ_eq_add_one, readChars_escapeChar,
      ih fuel (by simpa using h)]
    rfl

lemma length_le_flatMap_escapeChar (s : List Char) : s.length ≤ (s.flatMap escapeChar).length := by
  induction s with
  | nil => exact Nat.le_refl _
  | cons c s ih =>
    have hc : 1 ≤ (escapeChar c).length := by
      unfold escapeChar
      split_ifs <;> simp
    rw [flatMap_cons, length_append, length_cons]
    omega

/-! ### Numbers -/

lemma isDigit_of_mem_toDigits (h : c ∈ Nat.toDigits 10 n) :
    c.isDigit = true := Nat.isDigit_of_mem_toDigits (by omega) (by omega) h

lemma head_toDigits_ne_zero (n : Nat) (h : 0 < n) : (Nat.toDigits 10 n).head? ≠ some '0' := by
  induction n using Nat.strongRecOn with
  | _ n ih =>
    rw [Nat.toDigits_eq_if (by omega)]
    split_ifs with hn
    · have : n = 1 ∨ n = 2 ∨ n = 3 ∨ n = 4 ∨ n = 5 ∨ n = 6 ∨ n = 7 ∨ n = 8 ∨ n = 9 := by omega
      rcases this with rfl | rfl | rfl | rfl | rfl | rfl | rfl | rfl | rfl <;> decide
    · rw [head?_append_of_ne_nil _ Nat.toDigits_ne_nil]
      exact ih (n / 10) (by omega) (by omega)

lemma toDigits_no_leading_zero (n : Nat) :
    ¬((Nat.toDigits 10 n).head? = some '0' ∧ (Nat.toDigits 10 n).length ≠ 1) := by
  rintro ⟨hhead, hlen⟩
  rcases Nat.eq_zero_or_pos n with rfl | hn
  · exact hlen rfl
  · exact head_toDigits_ne_zero n hn hhead

lemma takeWhile_all (h : ∀ c ∈ cs, p c = true) : cs.takeWhile p = cs ∧ cs.dropWhile p = [] := by
  refine ⟨?_, ?_⟩
  · exact takeWhile_eq_self_iff.mpr h
  · exact dropWhile_eq_nil_iff.mpr h

lemma toDigits_head_ne_minus (n : Nat) : (Nat.toDigits 10 n).head? ≠ some '-' := by
  intro h
  have hmem : '-' ∈ Nat.toDigits 10 n := mem_of_mem_head? h
  exact absurd (isDigit_of_mem_toDigits hmem) (by decide)

def intInRange (z : Int) : Bool := -(2 ^ 63) ≤ z && z < 2 ^ 64

lemma readNumber_printInt (readFloat : String → Option String)
    (h : intInRange z = true) : readNumber readFloat (printNumber (.int z)) = some (.int z) := by
  obtain ⟨hlo, hhi⟩ : -(2 ^ 63) ≤ z ∧ z < 2 ^ 64 := by simpa [intInRange] using h
  obtain ⟨htake, hdrop⟩ := takeWhile_all (fun c => isDigit_of_mem_toDigits (n := z.natAbs) (c := c))
  have hne : Nat.toDigits 10 z.natAbs ≠ [] := Nat.toDigits_ne_nil
  have hzero := toDigits_no_leading_zero z.natAbs
  by_cases hz : z < 0
  · have habs : ¬(z.natAbs = 0 ∨ 2 ^ 63 < z.natAbs) := by omega
    have hval : -(z.natAbs : Int) = z := by omega
    simp only [printNumber, if_pos hz, readNumber, head?_cons, tail_cons, reduceIte,
      htake, hdrop, hne, false_or, if_neg hzero, Nat.ofDigitChars_ten_toDigits, habs, hval]
  · have hval : (z.natAbs : Int) = z := by omega
    have hlt : z.natAbs < 2 ^ 64 := by omega
    simp only [printNumber, if_neg hz, readNumber, toDigits_head_ne_minus, reduceIte,
      htake, hdrop, hne, false_or, if_neg hzero, Nat.ofDigitChars_ten_toDigits, hlt, hval]

/-! ### Values -/

def floatText (readFloat : String → Option String) (text : String) : Bool :=
  text.toList.all isNumberChar &&
    (text.toList.head?.any fun c => c = '-' || c.isDigit) &&
    readNumber readFloat text.toList = some (.float text)

def wfNumber (readFloat : String → Option String) : JsonNumber → Bool
  | .int z => intInRange z
  | .float text => floatText readFloat text

mutual

/-- The values a reader can answer with: numbers in range, objects in key order. -/
def wf (readFloat : String → Option String) : Json → Bool
  | null => true
  | bool _ => true
  | num n => wfNumber readFloat n
  | str _ => true
  | arr xs => wfItems readFloat xs
  | obj fs => decide (KeysSorted fs) && wfFields readFloat fs

def wfItems (readFloat : String → Option String) : List Json → Bool
  | [] => true
  | x :: xs => wf readFloat x && wfItems readFloat xs

def wfFields (readFloat : String → Option String) : List (String × Json) → Bool
  | [] => true
  | (_, v) :: fs => wf readFloat v && wfFields readFloat fs

end

mutual

def legible (readFloat : String → Option String) : Json → Bool
  | num n => wfNumber readFloat n
  | arr xs => legibleItems readFloat xs
  | obj fs => legibleFields readFloat fs
  | null | bool _ | str _ => true

def legibleItems (readFloat : String → Option String) : List Json → Bool
  | [] => true
  | x :: xs => legible readFloat x && legibleItems readFloat xs

def legibleFields (readFloat : String → Option String) : List (String × Json) → Bool
  | [] => true
  | (_, v) :: fs => legible readFloat v && legibleFields readFloat fs

end

mutual

/-- The value with the members of its objects entered into ordered maps, at every depth. -/
def sortKeys : Json → Json
  | arr xs => arr (sortItems xs)
  | obj fs => mkObj (sortFields fs)
  | null => null
  | bool b => bool b
  | num n => num n
  | str s => str s

def sortItems : List Json → List Json
  | [] => []
  | x :: xs => sortKeys x :: sortItems xs

def sortFields : List (String × Json) → List (String × Json)
  | [] => []
  | (k, v) :: fs => (k, sortKeys v) :: sortFields fs

end

mutual

def nesting : Json → Nat
  | null => 0
  | bool _ => 0
  | num _ => 0
  | str _ => 0
  | arr xs => nestingItems xs + 1
  | obj fs => nestingFields fs + 1

def nestingItems : List Json → Nat
  | [] => 0
  | x :: xs => max (nesting x) (nestingItems xs)

def nestingFields : List (String × Json) → Nat
  | [] => 0
  | (_, v) :: fs => max (nesting v) (nestingFields fs)

end

def NoNumberHead (rest : List Char) : Prop := ∀ c ∈ rest.head?, isNumberChar c = false

lemma noNumberHead_nil : NoNumberHead [] := by simp [NoNumberHead]

lemma noNumberHead_cons (h : isNumberChar c = false) (cs : List Char) : NoNumberHead (c :: cs) := by
  intro d hd
  obtain rfl : c = d := by simpa using hd
  exact h

lemma noNumberHead_printItems (xs : List Json) (rest : List Char) :
    NoNumberHead (printItems xs ++ rest) := by
  cases xs <;> exact noNumberHead_cons (by decide) _

lemma noNumberHead_printFields (fs : List (String × Json)) (rest : List Char) :
    NoNumberHead (printFields fs ++ rest) := by
  cases fs <;> exact noNumberHead_cons (by decide) _

lemma takeWhile_append_stop (h : ∀ c ∈ cs, p c = true) (hr : ∀ c ∈ rest.head?, p c = false) :
    (cs ++ rest).takeWhile p = cs ∧ (cs ++ rest).dropWhile p = rest := by
  rw [takeWhile_append_of_pos h, dropWhile_append_of_pos h]
  cases rest with
  | nil => simp
  | cons c rest => simp [hr c rfl]

def numberHead (c : Char) : Prop := c = '-' ∨ c.isDigit = true

lemma numberHead_dispatch (h : numberHead c) :
    isWs c = false ∧ c ≠ 'n' ∧ c ≠ 't' ∧ c ≠ 'f' ∧ c ≠ '"' ∧ c ≠ '[' ∧ c ≠ '{' ∧ c ≠ ']' := by
  rcases h with rfl | h
  · decide
  · refine ⟨?_, ?_, ?_, ?_, ?_, ?_, ?_, ?_⟩
    · by_contra hne
      have hws : isWs c = true := by simpa using hne
      have hblank : ((c = ' ' ∨ c = '\n') ∨ c = '\t') ∨ c = '\r' := by simpa [isWs] using hws
      rcases hblank with ((rfl | rfl) | rfl) | rfl <;> exact absurd h (by decide)
    all_goals rintro rfl; exact absurd h (by decide)

lemma printNumber_spec {n : JsonNumber} (h : wfNumber readFloat n = true) :
    (∀ c ∈ printNumber n, isNumberChar c = true) ∧
      (∃ c cs, printNumber n = c :: cs ∧ numberHead c) ∧
      readNumber readFloat (printNumber n) = some n := by
  cases n with
  | int z =>
    have hdigit : ∀ c ∈ Nat.toDigits 10 z.natAbs, isNumberChar c = true := by
      intro c hc
      simp [isNumberChar, isDigit_of_mem_toDigits hc]
    refine ⟨?_, ?_, readNumber_printInt readFloat h⟩
    · intro c hc
      simp only [printNumber] at hc
      split_ifs at hc with hz
      · rcases mem_cons.mp hc with rfl | hc
        · rfl
        · exact hdigit c hc
      · exact hdigit c hc
    · simp only [printNumber]
      split_ifs with hz
      · exact ⟨'-', _, rfl, .inl rfl⟩
      · obtain ⟨c, cs, hcs⟩ := exists_cons_of_ne_nil (Nat.toDigits_ne_nil (n := z.natAbs) (b := 10))
        refine ⟨c, cs, hcs, .inr ?_⟩
        exact isDigit_of_mem_toDigits (n := z.natAbs) (by rw [hcs]; simp)
  | float text =>
    simp only [wfNumber, floatText, Bool.and_eq_true, all_eq_true, decide_eq_true_eq] at h
    obtain ⟨⟨hall, hhead⟩, hread⟩ := h
    refine ⟨hall, ?_, hread⟩
    cases htext : text.toList with
    | nil => simp [htext] at hhead
    | cons c cs => exact ⟨c, cs, htext, by simpa [htext, numberHead] using hhead⟩

lemma parseValue_number {n : JsonNumber} (h : wfNumber readFloat n = true) (fuel depth : Nat)
    (hr : NoNumberHead rest) :
    parseValue readFloat (fuel + 1) depth (printNumber n ++ rest) = some (num n, rest) := by
  obtain ⟨hall, ⟨c, cs, hcs, hc⟩, hread⟩ := printNumber_spec h
  obtain ⟨htake, hdrop⟩ := takeWhile_append_stop hall hr
  obtain ⟨hws, hn, ht, hf, hq, hb, ho, -⟩ := numberHead_dispatch hc
  rw [hcs, cons_append] at htake hdrop
  rw [hcs, cons_append, parseValue]
  simp only [skipWs_cons hws, if_neg hn, if_neg ht, if_neg hf, if_neg hq, if_neg hb, if_neg ho,
    htake, hdrop]
  rw [← hcs, hread]
  exact if_pos hc

lemma parseValue_string (readFloat : String → Option String) (s : String) (fuel depth : Nat)
    (rest : List Char) (h : (printString s).length ≤ fuel) :
    parseValue readFloat fuel depth (printString s ++ rest) = some (str s, rest) := by
  have hlen := length_le_flatMap_escapeChar s.toList
  rw [printString, length_cons, length_append, length_singleton] at h
  obtain ⟨fuel, rfl⟩ : ∃ f, fuel = f + 1 := ⟨fuel - 1, by omega⟩
  have hread := readChars_print s.toList rest fuel (by omega)
  simp only [printString, cons_append, append_assoc, nil_append, parseValue]
  rw [skipWs_cons (by decide)]
  simp [hread]

lemma print_head (h : legible readFloat v = true) :
    ∃ c cs, print v = c :: cs ∧ isWs c = false ∧ c ≠ ']' := by
  cases v with
  | null | str s => exact ⟨_, _, rfl, by decide, by decide⟩
  | bool b => cases b <;> exact ⟨_, _, rfl, by decide, by decide⟩
  | num n =>
    obtain ⟨-, ⟨c, cs, hcs, hc⟩, -⟩ := printNumber_spec h
    obtain ⟨hws, -, -, -, -, -, -, hb⟩ := numberHead_dispatch hc
    exact ⟨c, cs, hcs, hws, hb⟩
  | arr xs => cases xs <;> exact ⟨_, _, rfl, by decide, by decide⟩
  | obj fs => cases fs <;> exact ⟨_, _, rfl, by decide, by decide⟩

def printMembers : List (String × Json) → List Char
  | [] => ['}']
  | (k, v) :: fs => printString k ++ ':' :: (print v ++ printFields fs)

lemma printFields_cons (f : String × Json) (fs : List (String × Json)) :
    printFields (f :: fs) = ',' :: printMembers (f :: fs) := by
  rw [printFields, printMembers]

lemma print_obj_cons (f : String × Json) (fs : List (String × Json)) :
    print (obj (f :: fs)) = '{' :: printMembers (f :: fs) := by
  rw [print, printMembers]

mutual

lemma parseValue_print (readFloat : String → Option String) :
    (v : Json) → (fuel depth : Nat) → (rest : List Char) → legible readFloat v = true →
      nesting v < depth → (print v).length ≤ fuel → NoNumberHead rest →
      parseValue readFloat fuel depth (print v ++ rest) = some (sortKeys v, rest)
  | null, fuel + 1, _, _, _, _, _, _ => by
    simp [print, parseValue, sortKeys, skipWs_cons (show isWs 'n' = false by decide)]
  | bool true, fuel + 1, _, _, _, _, _, _ => by
    simp [print, parseValue, sortKeys, skipWs_cons (show isWs 't' = false by decide)]
  | bool false, fuel + 1, _, _, _, _, _, _ => by
    simp [print, parseValue, sortKeys, skipWs_cons (show isWs 'f' = false by decide)]
  | num n, fuel, depth, rest, hw, _, hf, hr => by
    rw [print] at hf ⊢
    obtain ⟨-, ⟨c, cs, hcs, -⟩, -⟩ := printNumber_spec hw
    obtain ⟨fuel, rfl⟩ : ∃ n, fuel = n + 1 :=
      ⟨fuel - 1, by rw [hcs, length_cons] at hf; omega⟩
    rw [sortKeys]
    exact parseValue_number hw fuel depth hr
  | str s, fuel, depth, rest, _, _, hf, _ => by
    rw [print] at hf ⊢
    rw [sortKeys]
    exact parseValue_string readFloat s fuel depth rest hf
  | arr [], fuel + 1, depth, rest, _, hn, _, _ => by
    have hd : ¬depth ≤ 1 := by rw [nesting] at hn; omega
    simp [print, parseValue, sortKeys, sortItems, skipWs_cons (show isWs '[' = false by decide),
      skipWs_cons (show isWs ']' = false by decide), hd]
  | arr (x :: xs), fuel + 1, depth, rest, hw, hn, hf, _ => by
    rw [nesting, nestingItems] at hn
    rw [legible, legibleItems, Bool.and_eq_true] at hw
    rw [print, length_cons, length_append] at hf
    have hd : ¬depth ≤ 1 := by omega
    have hx := parseValue_print readFloat x fuel (depth - 1) (printItems xs ++ rest) hw.1
      (by omega) (by omega) (noNumberHead_printItems xs rest)
    have hxs := parseItems_print readFloat xs fuel (depth - 1) rest hw.2 (by omega) (by omega)
    obtain ⟨c, cs, hc, hws, hbr⟩ := print_head hw.1
    rw [hc, cons_append] at hx
    simp only [print, hc, cons_append, append_assoc, parseValue, sortKeys, sortItems,
      skipWs_cons (show isWs '[' = false by decide), skipWs_cons hws, hd, hbr, hx, hxs,
      reduceIte, Option.bind_eq_bind, Option.bind_some, Char.reduceEq]
  | obj [], fuel + 1, depth, rest, _, hn, _, _ => by
    have hd : ¬depth ≤ 1 := by rw [nesting] at hn; omega
    simp [print, parseValue, sortKeys, sortFields, mkObj, insertFields,
      skipWs_cons (show isWs '{' = false by decide), skipWs_cons (show isWs '}' = false by decide), hd]
  | obj (f :: fs), fuel + 1, depth, rest, hw, hn, hf, _ => by
    rw [nesting] at hn
    rw [legible] at hw
    rw [print_obj_cons, length_cons] at hf
    have hd : ¬depth ≤ 1 := by omega
    have hfs := parseField_print readFloat (f :: fs) fuel (depth - 1) rest [] (by simp) hw
      (by omega) (by omega)
    have hquote : ∃ cs, printMembers (f :: fs) = '"' :: cs := ⟨_, rfl⟩
    obtain ⟨cs, hcs⟩ := hquote
    rw [hcs, cons_append] at hfs
    rw [print_obj_cons, hcs, sortKeys, mkObj]
    simp only [cons_append, parseValue, skipWs_cons (show isWs '{' = false by decide),
      skipWs_cons (show isWs '"' = false by decide), hd, hfs, reduceIte, Option.bind_eq_bind,
      Option.bind_some, Char.reduceEq]

lemma parseItems_print (readFloat : String → Option String) :
    (xs : List Json) → (fuel depth : Nat) → (rest : List Char) →
      legibleItems readFloat xs = true → nestingItems xs < depth →
      (printItems xs).length ≤ fuel →
      parseItems readFloat fuel depth (printItems xs ++ rest) = some (sortItems xs, rest)
  | [], fuel + 1, _, _, _, _, _ => by
    simp [printItems, parseItems, sortItems, skipWs_cons (show isWs ']' = false by decide)]
  | x :: xs, fuel + 1, depth, rest, hw, hn, hf => by
    rw [nestingItems] at hn
    rw [legibleItems, Bool.and_eq_true] at hw
    rw [printItems, length_cons, length_append] at hf
    have hx := parseValue_print readFloat x fuel depth (printItems xs ++ rest) hw.1
      (by omega) (by omega) (noNumberHead_printItems xs rest)
    have hxs := parseItems_print readFloat xs fuel depth rest hw.2 (by omega) (by omega)
    simp only [printItems, cons_append, append_assoc, parseItems, sortItems,
      skipWs_cons (show isWs ',' = false by decide), hx, hxs, reduceIte, Option.bind_eq_bind,
      Option.bind_some, Char.reduceEq]

lemma parseField_print (readFloat : String → Option String) :
    (fs : List (String × Json)) → (fuel depth : Nat) → (rest : List Char) →
      (acc : List (String × Json)) → fs ≠ [] → legibleFields readFloat fs = true →
      nestingFields fs < depth → (printMembers fs).length ≤ fuel →
      parseField readFloat fuel depth (printMembers fs ++ rest) acc =
        some (insertFields (sortFields fs) acc, rest)
  | (k, v) :: fs, fuel, depth, rest, acc, _, hw, hn, hf => by
    rw [nestingFields] at hn
    rw [legibleFields, Bool.and_eq_true] at hw
    have hkey := length_le_flatMap_escapeChar k.toList
    simp only [printMembers, printString, length_cons, length_append,
      length_nil] at hf
    obtain ⟨fuel, rfl⟩ : ∃ n, fuel = n + 1 := ⟨fuel - 1, by omega⟩
    have hread := readChars_print k.toList (':' :: (print v ++ (printFields fs ++ rest))) fuel
      (by omega)
    have hv := parseValue_print readFloat v fuel depth (printFields fs ++ rest) hw.1
      (by omega) (by omega) (noNumberHead_printFields fs rest)
    simp only [printMembers, printString, cons_append, append_assoc, nil_append,
      parseField, skipWs_cons (show isWs '"' = false by decide), hread, reduceIte,
      Option.bind_eq_bind, Option.bind_some, skipWs_cons (show isWs ':' = false by decide), hv,
      String.ofList_toList, sortFields]
    cases fs with
    | nil => simp [printFields, skipWs_cons (show isWs '}' = false by decide), sortFields, insertFields]
    | cons g fs =>
      have hrest := parseField_print readFloat (g :: fs) fuel depth rest
        (insertField k (sortKeys v) acc) (by simp) hw.2 (by omega)
        (by rw [printFields_cons, length_cons] at hf; omega)
      rw [printFields_cons, cons_append, skipWs_cons (by decide)]
      simp [hrest, insertFields]

end

lemma insertFields_of_sorted (hs : KeysSorted fs)
    (ha : ∀ f ∈ fs, ∀ a ∈ acc, a.1 < f.1) : insertFields fs acc = acc ++ fs := by
  induction fs generalizing acc with
  | nil => simp [insertFields]
  | cons f fs ih =>
    obtain ⟨hk, hs⟩ := keysSorted_cons.mp hs
    have hins : insertField f.1 f.2 acc = acc ++ [f] :=
      insertField_of_lt (fun a h => ha f mem_cons_self a h)
    have hrest := @ih (acc ++ [f]) hs fun g hg a hmem => by
      rcases mem_append.mp hmem with hmem | hmem
      · exact ha g (mem_cons_of_mem _ hg) a hmem
      · rw [mem_singleton.mp hmem]
        exact hk g hg
    have hstep : insertFields (f :: fs) acc = insertFields fs (insertField f.1 f.2 acc) := rfl
    rw [hstep, hins, hrest, append_assoc, singleton_append]

mutual

lemma legible_of_wf : (v : Json) → wf readFloat v = true →
    legible readFloat v = true ∧ sortKeys v = v
  | null, _ | bool _, _ | str _, _ => ⟨rfl, rfl⟩
  | num _, h => ⟨h, rfl⟩
  | arr xs, h => by
    obtain ⟨hlegible, hsame⟩ := legibleItems_of_wf xs h
    exact ⟨hlegible, congrArg arr hsame⟩
  | obj fs, h => by
    rw [wf, Bool.and_eq_true, decide_eq_true_eq] at h
    obtain ⟨hlegible, hsame⟩ := legibleFields_of_wf fs h.2
    refine ⟨hlegible, ?_⟩
    rw [sortKeys, hsame, mkObj, insertFields_of_sorted h.1 (by simp)]
    rfl

lemma legibleItems_of_wf : (xs : List Json) → wfItems readFloat xs = true →
    legibleItems readFloat xs = true ∧ sortItems xs = xs
  | [], _ => ⟨rfl, rfl⟩
  | x :: xs, h => by
    rw [wfItems, Bool.and_eq_true] at h
    have hx := legible_of_wf x h.1
    have hxs := legibleItems_of_wf xs h.2
    simp [legibleItems, sortItems, hx, hxs]

lemma legibleFields_of_wf : (fs : List (String × Json)) → wfFields readFloat fs = true →
    legibleFields readFloat fs = true ∧ sortFields fs = fs
  | [], _ => ⟨rfl, rfl⟩
  | (k, v) :: fs, h => by
    rw [wfFields, Bool.and_eq_true] at h
    have hv := legible_of_wf v h.1
    have hfs := legibleFields_of_wf fs h.2
    simp [legibleFields, sortFields, hv, hfs]

end

/-- The round trip through compact text. -/
lemma parse_toText (hw : wf readFloat v = true) (hn : nesting v ≤ 127) :
    parse readFloat (toText v) = some v := by
  have htext : (toText v).toList = print v := String.toList_ofList
  have hlen : (toText v).length = (print v).length := by rw [← htext, String.length_toList]
  obtain ⟨hlegible, hsame⟩ := legible_of_wf v hw
  have h := parseValue_print readFloat v (print v).length 128 [] hlegible (by omega) le_rfl
    noNumberHead_nil
  rw [append_nil, hsame] at h
  rw [parse, htext, hlen, h]
  simp only [Option.bind_eq_bind, Option.bind_some, skipWs, dropWhile_nil, reduceIte]

/-! ## Values the kernel writes -/

lemma wfFields_iff : wfFields readFloat fs = true ↔ ∀ f ∈ fs, wf readFloat f.2 = true := by
  induction fs with
  | nil => simp [wfFields]
  | cons f fs ih => rw [wfFields, Bool.and_eq_true, ih, forall_mem_cons]

lemma wfItems_iff : wfItems readFloat xs = true ↔ ∀ x ∈ xs, wf readFloat x = true := by
  induction xs with
  | nil => simp [wfItems]
  | cons x xs ih => rw [wfItems, Bool.and_eq_true, ih, forall_mem_cons]

lemma wf_obj :
    wf readFloat (obj fs) = true ↔ KeysSorted fs ∧ ∀ f ∈ fs, wf readFloat f.2 = true := by
  rw [wf, Bool.and_eq_true, decide_eq_true_eq, wfFields_iff]

lemma nesting_obj_le : nesting (obj fs) ≤ n + 1 ↔ ∀ f ∈ fs, nesting f.2 ≤ n := by
  rw [nesting, Nat.succ_le_succ_iff]
  induction fs with
  | nil => simp [nestingFields]
  | cons f fs ih => rw [nestingFields, max_le_iff, ih, forall_mem_cons]

lemma wf_mkObj (h : ∀ f ∈ fs, wf readFloat f.2 = true) : wf readFloat (mkObj fs) = true := by
  refine wf_obj.mpr ⟨keysSorted_insertFields fs keysSorted_nil, fun f hf => ?_⟩
  rcases mem_insertFields hf with hf | hf
  · exact h f hf
  · cases hf

lemma nesting_mkObj (h : ∀ f ∈ fs, nesting f.2 ≤ n) : nesting (mkObj fs) ≤ n + 1 := by
  refine nesting_obj_le.mpr fun f hf => ?_
  rcases mem_insertFields hf with hf | hf
  · exact h f hf
  · cases hf

def isLeaf : Json → Bool
  | null | bool _ | str _ => true
  | num _ | arr _ | obj _ => false

@[simp] lemma isLeaf_str (s : String) : (str s).isLeaf = true := rfl

@[simp] lemma isLeaf_bool (b : Bool) : (bool b).isLeaf = true := rfl

@[simp] lemma isLeaf_ofOption (o : Option String) : (ofOption o).isLeaf = true := by
  cases o <;> rfl

lemma readable_mkObj_leaves (readFloat : String → Option String) (fs : List (String × Json))
    (h : ∀ f ∈ fs, f.2.isLeaf = true) :
    wf readFloat (mkObj fs) = true ∧ nesting (mkObj fs) ≤ 1 := by
  refine ⟨wf_mkObj fun f hf => ?_, nesting_mkObj (n := 0) fun f hf => ?_⟩
  all_goals
    have hleaf := h f hf
    revert hleaf
    cases f.2 <;> simp [isLeaf, wf, nesting]

lemma readable_mkObj_texts (readFloat : String → Option String) (fs : List (String × Json))
    (h : ∀ f ∈ fs, ∃ s, f.2 = str s) : wf readFloat (mkObj fs) = true ∧ nesting (mkObj fs) ≤ 1 :=
  readable_mkObj_leaves readFloat fs fun f hf => by
    obtain ⟨s, hs⟩ := h f hf
    rw [hs, isLeaf]

lemma wf_insertField (k : String) (hfs : wf readFloat (obj fs) = true)
    (hv : wf readFloat v = true) : wf readFloat (obj (insertField k v fs)) = true := by
  obtain ⟨hsorted, hfields⟩ := wf_obj.mp hfs
  refine wf_obj.mpr ⟨keysSorted_insertField k v hsorted, fun f hf => ?_⟩
  rcases mem_insertField hf with rfl | hf
  · exact hv
  · exact hfields f hf

lemma wf_removeField (k : String) (h : wf readFloat (obj fs) = true) :
    wf readFloat (obj (removeField k fs)) = true := by
  obtain ⟨hsorted, hfields⟩ := wf_obj.mp h
  exact wf_obj.mpr ⟨hsorted.filter _, fun f hf => hfields f (mem_of_mem_filter hf)⟩

end Json

end AgentCore.Foundation
