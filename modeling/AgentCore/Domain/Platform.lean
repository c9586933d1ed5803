import AgentCore.Foundation.JsonParse

/-! What the kernel takes from its libraries, and a reference instance of it. -/

namespace AgentCore.Domain

open Foundation List String

/-- Nanoseconds since the epoch. A stored instant is its RFC 3339 text in UTC, and those
texts order as the instants they name. -/
abbrev Timestamp := Nat

def minutes (n : Nat) : Timestamp := n * 60 * 10 ^ 9

/-- The hex text of SHA-256, the text of an instant, and the reader of JSON numbers that
are not machine integers. -/
class Platform where
  sha256Hex : String → String
  rfc3339 : Timestamp → String
  readFloat : String → Option String

def fromStr [Platform] (s : String) : Option Json := Json.parse Platform.readFloat s

lemma fromStr_toText [Platform] (hw : v.wf Platform.readFloat = true)
    (hn : v.nesting ≤ 127) : fromStr v.toText = some v := Json.parse_toText hw hn

structure HexDigest (f : String → String) : Prop where
  injective : Function.Injective f
  hex : ∀ s, ∀ c ∈ (f s).toList, c ∈ "0123456789abcdef".toList
  nonempty : ∀ s, f s ≠ ""

/-! ## A reference instance -/

def hexCodeChar (c : Char) : List Char :=
  [Json.hexDigit (c.toNat % 16), Json.hexDigit (c.toNat / 16 % 16),
    Json.hexDigit (c.toNat / 16 ^ 2 % 16), Json.hexDigit (c.toNat / 16 ^ 3 % 16),
    Json.hexDigit (c.toNat / 16 ^ 4 % 16), Json.hexDigit (c.toNat / 16 ^ 5 % 16)]

def hexCode (s : String) : String := ofList ('0' :: s.toList.flatMap hexCodeChar)

lemma hexDigit_inj (hm : m < 16) (hn : n < 16) (h : Json.hexDigit m = Json.hexDigit n) : m = n := by
  have hv := Json.hexValue_hexDigit hm
  rw [h, Json.hexValue_hexDigit hn] at hv
  exact (Option.some.inj hv).symm

lemma toNat_lt_hexCode (c : Char) : c.toNat < 16 ^ 6 := by
  have hvalid : c.toNat < 0xd800 ∨ (0xdfff < c.toNat ∧ c.toNat < 0x110000) := c.valid
  omega

lemma hexCodeChar_injective : Function.Injective hexCodeChar := by
  intro c d h
  simp only [hexCodeChar, cons.injEq, and_true] at h
  obtain ⟨h0, h1, h2, h3, h4, h5⟩ := h
  have e0 := hexDigit_inj (by omega) (by omega) h0
  have e1 := hexDigit_inj (by omega) (by omega) h1
  have e2 := hexDigit_inj (by omega) (by omega) h2
  have e3 := hexDigit_inj (by omega) (by omega) h3
  have e4 := hexDigit_inj (by omega) (by omega) h4
  have e5 := hexDigit_inj (by omega) (by omega) h5
  have hc := toNat_lt_hexCode c
  have hd := toNat_lt_hexCode d
  have hnat : c.toNat = d.toNat := by omega
  rw [← Char.ofNat_toNat c, hnat, Char.ofNat_toNat]

lemma flatMap_hexCodeChar_injective :
    Function.Injective (fun cs : List Char => cs.flatMap hexCodeChar) := by
  intro cs
  induction cs with
  | nil =>
    intro ds h
    cases ds with
    | nil => rfl
    | cons d ds => simp [hexCodeChar] at h
  | cons c cs ih =>
    intro ds h
    cases ds with
    | nil => simp [hexCodeChar] at h
    | cons d ds =>
      simp only [flatMap_cons] at h
      obtain ⟨hhead, htail⟩ := append_inj h rfl
      rw [hexCodeChar_injective hhead, ih htail]

lemma hexCode_hexDigest : HexDigest hexCode where
  injective s t h := by
    have hlist := congrArg toList h
    simp only [hexCode, toList_ofList, cons.injEq, true_and] at hlist
    exact toList_inj.mp (flatMap_hexCodeChar_injective hlist)
  hex s c hc := by
    have hdigit : ∀ n < 16, Json.hexDigit n ∈ "0123456789abcdef".toList := by decide
    simp only [hexCode, toList_ofList, mem_cons, mem_flatMap] at hc
    rcases hc with rfl | ⟨d, -, hc⟩
    · decide
    · simp only [hexCodeChar, mem_cons, not_mem_nil, or_false] at hc
      rcases hc with rfl | rfl | rfl | rfl | rfl | rfl <;>
        exact hdigit _ (Nat.mod_lt _ (by decide))
  nonempty s h := by
    have hlist := congrArg toList h
    simp [hexCode] at hlist

@[reducible] def referencePlatform : Platform where
  sha256Hex := hexCode
  rfc3339 t := toString t
  readFloat _ := none

@[reducible] def samplePlatform : Platform where
  sha256Hex s := toString s.length
  rfc3339 t := toString t
  readFloat _ := none

@[reducible] def zeroPlatform : Platform where
  sha256Hex _ := "0000000000000000000000000000000000000000000000000000000000000000"
  rfc3339 _ := ""
  readFloat _ := none

@[reducible] def forkPlatform (text : String) : Platform where
  sha256Hex s := if s = text then "1111111111111111111111111111111111111111111111111111111111111111" else "0000000000000000000000000000000000000000000000000000000000000000"
  rfc3339 _ := ""
  readFloat _ := none

end AgentCore.Domain
