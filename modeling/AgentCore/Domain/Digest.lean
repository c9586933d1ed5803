import AgentCore.Foundation.Tx
import AgentCore.Domain.Platform

/-! The canonical text of a SHA-256 digest: `sha256:` and 64 lowercase hex digits. -/

namespace AgentCore.Domain

open Foundation

def isLowerHex (c : Char) : Bool :=
  (decide ('0' ≤ c) && decide (c ≤ '9')) || (decide ('a' ≤ c) && decide (c ≤ 'f'))

def sha256Prefixed (s : String) : Bool := "sha256:".toList.isPrefixOf s.toList

structure Sha256Digest where
  text : String
  length : text.utf8ByteSize = 71
  prefixed : sha256Prefixed text = true
  hex : (text.toList.drop 7).all isLowerHex = true

namespace Sha256Digest

/-- The source also tests the length of the hex part, which the first two tests fix. -/
def parse (s : String) : Except String Sha256Digest :=
  if hlength : s.utf8ByteSize = 71 then
    if hprefixed : sha256Prefixed s = true then
      if hhex : (s.toList.drop 7).all isLowerHex = true then
        .ok ⟨s, hlength, hprefixed, hhex⟩
      else .error "invalid_hex_chars"
    else .error "digest_must_start_with_sha256:"
  else .error "invalid_digest_length"

def compute [Platform] (data : String) : String := "sha256:" ++ Platform.sha256Hex data

end Sha256Digest

end AgentCore.Domain
