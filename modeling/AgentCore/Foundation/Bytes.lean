import AgentCore.Foundation.JsonParse

/-!
# Byte strings: lengths in eight bytes, framed fields, hex texts

A message made of fields, each behind its length in eight big-endian bytes, can be read back in
one way only. Two messages with different numbers of fields are therefore never the same bytes.
-/

namespace AgentCore.Foundation

open List

abbrev Bytes := List UInt8

def toBeBytes (n : Nat) : Bytes :=
  [UInt8.ofNat (n / 2 ^ 56), UInt8.ofNat (n / 2 ^ 48), UInt8.ofNat (n / 2 ^ 40),
    UInt8.ofNat (n / 2 ^ 32), UInt8.ofNat (n / 2 ^ 24), UInt8.ofNat (n / 2 ^ 16),
    UInt8.ofNat (n / 2 ^ 8), UInt8.ofNat n]

variable {n : Nat}

lemma ofNat_eq_iff : UInt8.ofNat m = UInt8.ofNat n ↔ m % 256 = n % 256 := by
  rw [← UInt8.toNat_inj, UInt8.toNat_ofNat', UInt8.toNat_ofNat']

lemma toBeBytes_inj (hm : m < 2 ^ 64) (hn : n < 2 ^ 64)
    (h : toBeBytes m = toBeBytes n) : m = n := by
  simp only [toBeBytes, cons.injEq, ofNat_eq_iff, and_true] at h
  omega

/-! ## Framed fields -/

def frame (field : Bytes) : Bytes := toBeBytes field.length ++ field

def frames (fields : List Bytes) : Bytes := fields.flatMap frame

@[simp] lemma frames_nil : frames [] = [] := rfl

lemma frames_cons (field : Bytes) (fields : List Bytes) :
    frames (field :: fields) = toBeBytes field.length ++ (field ++ frames fields) := by
  simp only [frames, frame, flatMap_cons, append_assoc]

def Framable (fields : List Bytes) : Prop := ∀ field ∈ fields, field.length < 2 ^ 64

lemma frames_cons_ne_nil (field : Bytes) (fields : List Bytes) : frames (field :: fields) ≠ [] := by
  rw [frames_cons]
  exact cons_ne_nil _ _

lemma frames_inj (hf : Framable fields) (ho : Framable others)
    (h : frames fields = frames others) : fields = others := by
  induction fields generalizing others with
  | nil =>
    cases others with
    | nil => rfl
    | cons other others => exact absurd h.symm (frames_cons_ne_nil other others)
  | cons field fields ih =>
    cases others with
    | nil => exact absurd h (frames_cons_ne_nil field fields)
    | cons other others =>
      rw [frames_cons, frames_cons] at h
      -- The first eight bytes give the length of the first field, and so where it ends.
      obtain ⟨hlen, hrest⟩ := append_inj h rfl
      have hlength : field.length = other.length :=
        toBeBytes_inj (hf _ mem_cons_self) (ho _ mem_cons_self) hlen
      obtain ⟨hfield, htail⟩ := append_inj hrest hlength
      have hfields : fields = others :=
        ih (fun x hx => hf x (mem_cons_of_mem _ hx))
          (fun x hx => ho x (mem_cons_of_mem _ hx)) htail
      rw [hfield, hfields]

/-! ## Hex texts -/

def hexEncodeByte (b : UInt8) : List Char :=
  [Json.hexDigit (b.toNat / 16), Json.hexDigit (b.toNat % 16)]

def hexEncode (bytes : Bytes) : List Char := bytes.flatMap hexEncodeByte

def hexDecode : List Char → Option Bytes
  | [] => some []
  | [_] => none
  | hi :: lo :: rest => do
    let hi ← Json.hexValue hi
    let lo ← Json.hexValue lo
    let bytes ← hexDecode rest
    some (UInt8.ofNat (16 * hi + lo) :: bytes)

lemma hexDecode_hexEncode (bytes : Bytes) : hexDecode (hexEncode bytes) = some bytes := by
  induction bytes with
  | nil => rfl
  | cons b bytes ih =>
    have hlt : b.toNat < 256 := b.toNat_lt
    have hhi : Json.hexValue (Json.hexDigit (b.toNat / 16)) = some (b.toNat / 16) :=
      Json.hexValue_hexDigit (by omega)
    have hlo : Json.hexValue (Json.hexDigit (b.toNat % 16)) = some (b.toNat % 16) :=
      Json.hexValue_hexDigit (by omega)
    have hbyte : .ofNat (16 * (b.toNat / 16) + b.toNat % 16) = b := by
      rw [Nat.div_add_mod, UInt8.ofNat_toNat]
    change (do
      let hi ← Json.hexValue (Json.hexDigit (b.toNat / 16))
      let lo ← Json.hexValue (Json.hexDigit (b.toNat % 16))
      let rest ← hexDecode (hexEncode bytes)
      some (.ofNat (16 * hi + lo) :: rest)) = some (b :: bytes)
    simp only [hhi, hlo, ih, Option.bind_eq_bind, Option.bind_some, hbyte]

/-! ## Cutting a text at a number of bytes -/

def charsOfBytes : List Char → Nat → Option (List Char)
  | _, 0 => some []
  | [], _ + 1 => some []
  | c :: cs, n + 1 =>
    if c.utf8Size ≤ n + 1 then (charsOfBytes cs (n + 1 - c.utf8Size)).map (c :: ·) else none

lemma charsOfBytes_isSome_iff (hn : n ≤ String.utf8Len cs) :
    (charsOfBytes cs n).isSome = true ↔ ∃ k, String.utf8Len (cs.take k) = n := by
  induction cs generalizing n with
  | nil =>
    have hzero : n = 0 := Nat.le_zero.mp hn
    subst hzero
    exact iff_of_true rfl ⟨0, rfl⟩
  | cons c cs ih =>
    cases n with
    | zero => exact iff_of_true rfl ⟨0, rfl⟩
    | succ n =>
      rw [String.utf8Len_cons] at hn
      rw [charsOfBytes]
      split
      · rename_i hfits
        rw [Option.isSome_map, ih (by omega)]
        constructor
        · rintro ⟨k, hk⟩
          refine ⟨k + 1, ?_⟩
          rw [take_succ_cons, String.utf8Len_cons, hk]
          omega
        · rintro ⟨k, hk⟩
          cases k with
          | zero => exact absurd hk (by simp)
          | succ k =>
            rw [take_succ_cons, String.utf8Len_cons] at hk
            exact ⟨k, by omega⟩
      · rename_i hcut
        refine iff_of_false nofun ?_
        rintro ⟨k, hk⟩
        cases k with
        | zero => exact absurd hk (by simp)
        | succ k =>
          rw [take_succ_cons, String.utf8Len_cons] at hk
          omega

end AgentCore.Foundation
