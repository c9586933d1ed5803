import Mathlib.Algebra.Group.Nat.Defs
import AgentCore.Foundation.Search
import AgentCore.Foundation.Trim

/-! Reading one HTTP request from a connection. The stream comes in reads of at most 1024
bytes and ends with a read of none; an operation that would abort the process is a fault
of its own, beside the errors that the reader returns. -/

namespace AgentCore.Server

open Foundation List

/-! ## Texts -/

variable {buffer : List UInt8} {headerEnd : Nat}

def splitInclusive : List Char → List (List Char)
  | [] => []
  | c :: cs =>
    if c = '\n' then [c] :: splitInclusive cs
    else match splitInclusive cs with
      | [] => [[c]]
      | piece :: rest => (c :: piece) :: rest

def stripLineEnd (piece : List Char) : List Char :=
  match piece.reverse with
  | '\n' :: '\r' :: rest => rest.reverse
  | '\n' :: rest => rest.reverse
  | _ => piece

def lines (s : String) : List String :=
  (splitInclusive s.toList).map fun piece => String.ofList (stripLineEnd piece)

def splitOnce (c : Char) (s : String) : Option (String × String) :=
  match s.toList.span fun d => d ≠ c with
  | (_, []) => none
  | (name, _ :: value) => some (String.ofList name, String.ofList value)

def eqIgnoreAsciiCase (a b : String) : Bool :=
  a.toList.map Char.toLower == b.toList.map Char.toLower

def splitWhitespace (s : String) : List String :=
  ((s.toList.splitOnP isWhitespace).filter fun piece => !piece.isEmpty).map String.ofList

def stripPrefix? (p s : String) : Option String :=
  if p.toList.isPrefixOf s.toList then some (String.ofList (s.toList.drop p.length)) else none

def parseUsize (s : String) : Option Nat :=
  let digits := match s.toList with
    | '+' :: rest => rest
    | rest => rest
  if digits.isEmpty || !digits.all Char.isDigit then none
  else
    let n := digits.foldl (fun acc c => 10 * acc + (c.toNat - '0'.toNat)) 0
    if n < 2 ^ 64 then some n else none

/-! ## Faults -/

/-- An error that is returned, or an abort: a sum over the machine word, a slice beyond its
end. -/
inductive Fault
  | error (reason : String)
  | overflow
  | outOfBounds
deriving DecidableEq

def Fault.aborts : Fault → Bool
  | error _ => false
  | overflow => true
  | outOfBounds => true

def addUsize (a b : Nat) : Except Fault Nat :=
  if a + b < 2 ^ 64 then .ok (a + b) else .error .overflow

def sliceTo (buffer : List UInt8) (n : Nat) : Except Fault (List UInt8) :=
  if n ≤ buffer.length then .ok (buffer.take n) else .error .outOfBounds

def sliceFrom (buffer : List UInt8) (n : Nat) : Except Fault (List UInt8) :=
  if n ≤ buffer.length then .ok (buffer.drop n) else .error .outOfBounds

/-! ## The reader -/

structure Chunk where
  bytes : List UInt8
  nonempty : bytes ≠ []
  fits : bytes.length ≤ 1024

abbrev Reads := List (Except String Chunk)

variable {reads : Reads}

structure HttpRequest where
  (method path : String)
  bearerToken : Option String
  body : List UInt8
deriving DecidableEq

def HEADER_END : List UInt8 := [13, 10, 13, 10]

def findHeaderEnd (buffer : List UInt8) : Option Nat := firstIndex? HEADER_END buffer

def contentLength (head : String) : Nat :=
  match ((lines head).filterMap (splitOnce ':')).find? fun field =>
      eqIgnoreAsciiCase field.1 "content-length" with
  | some (_, value) => (parseUsize (trim value)).getD 0
  | none => 0

def bearerTokenOf (headers : List String) : Option String :=
  headers.foldl (fun token line =>
    match splitOnce ':' line with
    | some (name, value) =>
      if eqIgnoreAsciiCase name "authorization" then
        (stripPrefix? "Bearer " (trim value)).map trim
      else token
    | none => token) none

section Reader

-- the standard library's lossy reading of bytes as text
variable (fromUtf8Lossy : List UInt8 → String)

def parseRequest (buffer : List UInt8) : Except Fault HttpRequest := do
  match findHeaderEnd buffer with
  | none => throw (.error "missing HTTP headers")
  | some headerEnd =>
    let head := fromUtf8Lossy (← sliceTo buffer headerEnd)
    match lines head with
    | [] => throw (.error "missing request line")
    | requestLine :: headers =>
      let parts := splitWhitespace requestLine
      let body ← sliceFrom buffer (← addUsize headerEnd 4)
      return {
        method := parts[0]?.getD ""
        path := parts[1]?.getD ""
        bearerToken := bearerTokenOf headers
        body }

def fill (total : Nat) (buffer : List UInt8) : Reads → Except Fault (List UInt8)
  | [] => .ok buffer
  | .error reason :: _ => if total ≤ buffer.length then .ok buffer else .error (.error reason)
  | .ok chunk :: reads =>
    if total ≤ buffer.length then .ok buffer else fill total (buffer ++ chunk.bytes) reads

def readBody (buffer : List UInt8) (headerEnd : Nat) (reads : Reads) : Except Fault HttpRequest := do
  let head := fromUtf8Lossy (← sliceTo buffer headerEnd)
  let total ← addUsize (← addUsize headerEnd 4) (contentLength head)
  let full ← fill total buffer reads
  parseRequest fromUtf8Lossy (← sliceTo full total)

def readRequestFrom (buffer : List UInt8) : Reads → Except Fault HttpRequest
  | [] => .error (.error "empty request")
  | .error reason :: _ => .error (.error reason)
  | .ok chunk :: reads =>
    match findHeaderEnd (buffer ++ chunk.bytes) with
    | none => readRequestFrom (buffer ++ chunk.bytes) reads
    | some headerEnd => readBody fromUtf8Lossy (buffer ++ chunk.bytes) headerEnd reads

def readRequest (reads : Reads) : Except Fault HttpRequest :=
  readRequestFrom fromUtf8Lossy [] reads

/-! ## What is read -/

def streamOf : Reads → List UInt8
  | .ok chunk :: reads => chunk.bytes ++ streamOf reads
  | .error _ :: _ => []
  | [] => []

def failsIn : Reads → Bool
  | .ok _ :: reads => failsIn reads
  | .error _ :: _ => true
  | [] => false

def bodyLength (stream : List UInt8) (headerEnd : Nat) : Nat :=
  contentLength (fromUtf8Lossy (stream.take headerEnd))

/-- The reader returned an error, or a request whose body is the bytes after the header, as
many as the header says. -/
def Exact (stream : List UInt8) : Except Fault HttpRequest → Prop
  | .error fault => fault.aborts = false
  | .ok request => ∃ headerEnd, findHeaderEnd stream = some headerEnd ∧
      request.body = (stream.drop (headerEnd + 4)).take (bodyLength fromUtf8Lossy stream headerEnd) ∧
      request.body.length = bodyLength fromUtf8Lossy stream headerEnd

/-- Where there is a header, its end and the length it asks for fit the machine word, and the
stream brings that many bytes or a read fails. -/
def Delivered (stream : List UInt8) (fails : Bool) : Prop :=
  ∀ headerEnd, findHeaderEnd stream = some headerEnd →
    headerEnd + 4 + bodyLength fromUtf8Lossy stream headerEnd < 2 ^ 64 ∧
      (headerEnd + 4 + bodyLength fromUtf8Lossy stream headerEnd ≤ stream.length ∨ fails = true)

/-! ## Its parts -/

lemma length_of_findHeaderEnd (h : findHeaderEnd buffer = some headerEnd) :
    headerEnd + 4 ≤ buffer.length :=
  length_of_firstIndex? h

lemma fill_cases (total : Nat) (buffer : List UInt8) (reads : Reads) :
    (∃ full, fill total buffer reads = .ok full ∧ total ≤ full.length ∧
        full <+: buffer ++ streamOf reads) ∨ ((buffer ++ streamOf reads).length < total ∧
        ((failsIn reads = true ∧ ∃ reason, fill total buffer reads = .error (.error reason)) ∨
          (failsIn reads = false ∧ fill total buffer reads = .ok (buffer ++ streamOf reads)))) := by
  induction reads generalizing buffer with
  | nil =>
    simp only [fill, streamOf, failsIn, append_nil]
    rcases Nat.lt_or_ge buffer.length total with hlt | hge
    · exact .inr ⟨hlt, .inr ⟨trivial, trivial⟩⟩
    · exact .inl ⟨buffer, rfl, hge, prefix_refl _⟩
  | cons read reads ih =>
    by_cases hfull : total ≤ buffer.length
    · refine .inl ⟨buffer, ?_, hfull, prefix_append _ _⟩
      cases read <;> exact if_pos hfull
    · cases read with
      | error reason =>
        simp only [fill, if_neg hfull, streamOf, failsIn, append_nil]
        exact .inr ⟨by omega, .inl ⟨trivial, reason, rfl⟩⟩
      | ok chunk =>
        simp only [fill, if_neg hfull, streamOf, failsIn]
        rw [← append_assoc]
        exact ih (buffer ++ chunk.bytes)

lemma parseRequest_cases (h : findHeaderEnd buffer = some headerEnd)
    (hword : headerEnd + 4 < 2 ^ 64) :
    (∃ reason, parseRequest fromUtf8Lossy buffer = .error (.error reason)) ∨
      ∃ request, parseRequest fromUtf8Lossy buffer = .ok request ∧
        request.body = buffer.drop (headerEnd + 4) := by
  have hlen := length_of_findHeaderEnd h
  have hhead : sliceTo buffer headerEnd = .ok (buffer.take headerEnd) := if_pos (by omega)
  have hsum : addUsize headerEnd 4 = .ok (headerEnd + 4) := if_pos hword
  have hbody : sliceFrom buffer (headerEnd + 4) = .ok (buffer.drop (headerEnd + 4)) := if_pos hlen
  simp only [parseRequest, h, hhead, hsum, hbody, bind, Except.bind, pure, Except.pure]
  split
  · exact .inl ⟨_, rfl⟩
  · exact .inr ⟨_, rfl, rfl⟩

lemma readBody_of_overflow (h : findHeaderEnd buffer = some headerEnd)
    (hword : 2 ^ 64 ≤ headerEnd + 4 + bodyLength fromUtf8Lossy buffer headerEnd) :
    readBody fromUtf8Lossy buffer headerEnd reads = .error .overflow := by
  have hlen := length_of_findHeaderEnd h
  have hhead : sliceTo buffer headerEnd = .ok (buffer.take headerEnd) := if_pos (by omega)
  simp only [readBody, hhead, bind, Except.bind]
  by_cases hsum : headerEnd + 4 < 2 ^ 64
  · have hend : addUsize headerEnd 4 = .ok (headerEnd + 4) := if_pos hsum
    have htotal : addUsize (headerEnd + 4) (contentLength (fromUtf8Lossy (buffer.take headerEnd))) =
        .error .overflow := if_neg (Nat.not_lt.mpr hword)
    simp only [hend, htotal]
  · have hend : addUsize headerEnd 4 = .error .overflow := if_neg hsum
    simp only [hend]

lemma readBody_of_fits (h : findHeaderEnd buffer = some headerEnd)
    (hword : headerEnd + 4 + bodyLength fromUtf8Lossy buffer headerEnd < 2 ^ 64) :
    readBody fromUtf8Lossy buffer headerEnd reads = (do
        let full ← fill (headerEnd + 4 + bodyLength fromUtf8Lossy buffer headerEnd) buffer reads
        parseRequest fromUtf8Lossy
          (← sliceTo full (headerEnd + 4 + bodyLength fromUtf8Lossy buffer headerEnd))) := by
  have hlen := length_of_findHeaderEnd h
  have hhead : sliceTo buffer headerEnd = .ok (buffer.take headerEnd) := if_pos (by omega)
  have hend : addUsize headerEnd 4 = .ok (headerEnd + 4) := if_pos (by omega)
  have htotal : addUsize (headerEnd + 4) (contentLength (fromUtf8Lossy (buffer.take headerEnd))) =
      .ok (headerEnd + 4 + bodyLength fromUtf8Lossy buffer headerEnd) := if_pos hword
  simp only [readBody, hhead, hend, htotal, bind, Except.bind]

lemma bodyLength_append (h : findHeaderEnd buffer = some headerEnd) (rest : List UInt8) :
    bodyLength fromUtf8Lossy (buffer ++ rest) headerEnd =
      bodyLength fromUtf8Lossy buffer headerEnd := by
  have hlen := length_of_findHeaderEnd h
  rw [bodyLength, take_append_of_le_length (by omega), bodyLength]

variable {stream : List UInt8}

lemma delivered_iff_of_found (h : findHeaderEnd stream = some headerEnd) :
    Delivered fromUtf8Lossy stream fails ↔
      headerEnd + 4 + bodyLength fromUtf8Lossy stream headerEnd < 2 ^ 64 ∧
        (headerEnd + 4 + bodyLength fromUtf8Lossy stream headerEnd ≤ stream.length ∨
          fails = true) := by
  constructor
  · exact fun hdelivered => hdelivered headerEnd h
  · intro hdelivered headerEnd' h'
    cases h.symm.trans h'
    exact hdelivered

lemma exact_parseRequest (h : findHeaderEnd stream = some headerEnd)
    (hword : headerEnd + 4 + bodyLength fromUtf8Lossy stream headerEnd < 2 ^ 64)
    (hlong : headerEnd + 4 + bodyLength fromUtf8Lossy stream headerEnd ≤ stream.length) :
    Exact fromUtf8Lossy stream (parseRequest fromUtf8Lossy
      (stream.take (headerEnd + 4 + bodyLength fromUtf8Lossy stream headerEnd))) := by
  have hcut : findHeaderEnd
      (stream.take (headerEnd + 4 + bodyLength fromUtf8Lossy stream headerEnd)) = some headerEnd :=
    firstIndex?_take h (Nat.le_add_right _ _)
  rcases parseRequest_cases fromUtf8Lossy hcut (by omega) with
    ⟨reason, herror⟩ | ⟨request, hok, hbody⟩
  · rw [herror]
    rfl
  · rw [drop_take, Nat.add_sub_cancel_left] at hbody
    rw [hok]
    refine ⟨headerEnd, h, hbody, ?_⟩
    rw [hbody, length_take, length_drop]
    omega

lemma exact_readBody_iff (h : findHeaderEnd buffer = some headerEnd) :
    Exact fromUtf8Lossy (buffer ++ streamOf reads) (readBody fromUtf8Lossy buffer headerEnd reads) ↔
      Delivered fromUtf8Lossy (buffer ++ streamOf reads) (failsIn reads) := by
  have hstream : findHeaderEnd (buffer ++ streamOf reads) = some headerEnd :=
    firstIndex?_append h (streamOf reads)
  have hbody := bodyLength_append fromUtf8Lossy h (streamOf reads)
  rw [delivered_iff_of_found fromUtf8Lossy hstream, hbody]
  by_cases hword : headerEnd + 4 + bodyLength fromUtf8Lossy buffer headerEnd < 2 ^ 64
  · rw [readBody_of_fits fromUtf8Lossy h hword]
    rcases fill_cases (headerEnd + 4 + bodyLength fromUtf8Lossy buffer headerEnd) buffer reads with
      ⟨full, hfill, hlong, hprefix⟩ | ⟨hshort, ⟨hfails, reason, hfill⟩ | ⟨hends, hfill⟩⟩
    · -- enough bytes came: the cut of the buffer is the cut of the stream
      have hlong' := hlong.trans hprefix.length_le
      have hcut : full.take (headerEnd + 4 + bodyLength fromUtf8Lossy buffer headerEnd) =
          (buffer ++ streamOf reads).take
            (headerEnd + 4 + bodyLength fromUtf8Lossy buffer headerEnd) := by
        obtain ⟨rest, hrest⟩ := hprefix
        rw [← hrest, take_append_of_le_length hlong]
      have hslice : sliceTo full (headerEnd + 4 + bodyLength fromUtf8Lossy buffer headerEnd) =
          .ok (full.take (headerEnd + 4 + bodyLength fromUtf8Lossy buffer headerEnd)) :=
        if_pos hlong
      simp only [hfill, hslice, hcut, bind, Except.bind]
      refine iff_of_true ?_ ⟨hword, .inl hlong'⟩
      rw [← hbody] at hword hlong' ⊢
      exact exact_parseRequest fromUtf8Lossy hstream hword hlong'
    · simp only [hfill, bind, Except.bind]
      exact iff_of_true rfl ⟨hword, .inr hfails⟩
    · -- the stream ended early and the slice goes beyond the buffer
      have hslice : sliceTo (buffer ++ streamOf reads)
          (headerEnd + 4 + bodyLength fromUtf8Lossy buffer headerEnd) = .error .outOfBounds :=
        if_neg (Nat.not_le.mpr hshort)
      simp only [hfill, hslice, bind, Except.bind]
      refine iff_of_false (by simp [Exact, Fault.aborts]) ?_
      rintro ⟨-, hlong | hfails⟩
      · omega
      · rw [hends] at hfails
        cases hfails
  · rw [readBody_of_overflow fromUtf8Lossy h (Nat.le_of_not_lt hword)]
    exact iff_of_false (by simp [Exact, Fault.aborts]) fun hdelivered => hword hdelivered.1

/-- Reading never aborts, and returns an error or the request that the header describes,
exactly when the stream delivers what the header asks for. -/
theorem exact_readRequest_iff_delivered (reads : Reads) :
    Exact fromUtf8Lossy (streamOf reads) (readRequest fromUtf8Lossy reads) ↔
      Delivered fromUtf8Lossy (streamOf reads) (failsIn reads) := by
  have hloop : ∀ (buffer : List UInt8), findHeaderEnd buffer = none →
      (Exact fromUtf8Lossy (buffer ++ streamOf reads)
        (readRequestFrom fromUtf8Lossy buffer reads) ↔
      Delivered fromUtf8Lossy (buffer ++ streamOf reads) (failsIn reads)) := by
    induction reads with
    | nil =>
      intro buffer hnone
      refine iff_of_true rfl fun headerEnd hfound => ?_
      rw [streamOf, append_nil, hnone] at hfound
      cases hfound
    | cons read reads ih =>
      intro buffer hnone
      cases read with
      | error reason =>
        refine iff_of_true rfl fun headerEnd hfound => ?_
        rw [streamOf, append_nil, hnone] at hfound
        cases hfound
      | ok chunk =>
        simp only [readRequestFrom, streamOf, failsIn]
        rw [← append_assoc]
        cases hfound : findHeaderEnd (buffer ++ chunk.bytes) with
        | none => exact ih _ hfound
        | some headerEnd => exact exact_readBody_iff fromUtf8Lossy hfound
  exact hloop [] rfl

/-! ## The reads do not matter -/

/-- The stream begins with a request of `total` bytes. -/
structure WholeRequest (stream : List UInt8) (headerEnd total : Nat) : Prop where
  header : findHeaderEnd stream = some headerEnd
  length : headerEnd + 4 + bodyLength fromUtf8Lossy stream headerEnd = total
  word : total < 2 ^ 64
  arrived : total ≤ stream.length

lemma readBody_of_whole (hfound : findHeaderEnd buffer = some headerEnd)
    (h : WholeRequest fromUtf8Lossy (buffer ++ streamOf reads) headerEnd total) :
    readBody fromUtf8Lossy buffer headerEnd reads =
      parseRequest fromUtf8Lossy ((buffer ++ streamOf reads).take total) := by
  have htotal := h.length
  rw [bodyLength_append fromUtf8Lossy hfound] at htotal
  rw [readBody_of_fits fromUtf8Lossy hfound (htotal ▸ h.word), htotal]
  rcases fill_cases total buffer reads with ⟨full, hfill, henough, rest, hrest⟩ | ⟨hshort, -⟩
  · have hslice : sliceTo full total = .ok (full.take total) := if_pos henough
    simp only [hfill, hslice, bind, Except.bind]
    rw [← hrest, take_append_of_le_length henough]
  · exact absurd h.arrived (Nat.not_le.mpr hshort)

lemma readRequestFrom_of_whole (hnone : findHeaderEnd buffer = none)
    (h : WholeRequest fromUtf8Lossy (buffer ++ streamOf reads) headerEnd total) :
    readRequestFrom fromUtf8Lossy buffer reads =
      parseRequest fromUtf8Lossy ((buffer ++ streamOf reads).take total) := by
  induction reads generalizing buffer with
  | nil => simpa [streamOf, hnone] using h.header
  | cons read reads ih =>
    cases read with
    | error reason => simpa [streamOf, hnone] using h.header
    | ok chunk =>
      simp only [readRequestFrom, streamOf, ← append_assoc] at h ⊢
      cases hfound : findHeaderEnd (buffer ++ chunk.bytes) with
      | none => exact ih hfound h
      | some found =>
        cases (firstIndex?_append hfound (streamOf reads)).symm.trans h.header
        exact readBody_of_whole fromUtf8Lossy hfound h

/-- A request that arrives whole is read as its bytes are parsed, however they are cut into
reads and whatever comes after them. -/
theorem whole_request_read (reads : Reads) (headerEnd total : Nat)
    (h : WholeRequest fromUtf8Lossy (streamOf reads) headerEnd total) :
    readRequest fromUtf8Lossy reads = parseRequest fromUtf8Lossy ((streamOf reads).take total) :=
  readRequestFrom_of_whole fromUtf8Lossy rfl h

end Reader

/-! ## Two requests -/

def asciiText (bytes : List UInt8) : String :=
  String.ofList (bytes.map fun b => Char.ofNat b.toNat)

def asciiBytes (s : String) : List UInt8 := s.toList.map fun c => UInt8.ofNat c.toNat

def truncatedRequest : Chunk where
  bytes := asciiBytes "POST / HTTP/1.1\r\nContent-Length: 5\r\n\r\n"
  nonempty := by decide
  fits := by decide

def hugeRequest : Chunk where
  bytes := asciiBytes "POST / HTTP/1.1\r\nContent-Length: 18446744073709551615\r\n\r\n"
  nonempty := by decide
  fits := by decide

/-- The body is in the second read, with a byte too many. -/
theorem whole_request_read_twice :
    readRequest asciiText [.ok truncatedRequest, .ok ⟨[1, 2, 3, 4, 5, 6], by decide, by decide⟩] =
      .ok ⟨"POST", "/", none, [1, 2, 3, 4, 5]⟩ :=
  (whole_request_read asciiText _ 34 43 (by constructor <;> decide +kernel)).trans (by decide +kernel)

/-- A stream that ends after the header, and a length that does not fit. -/
theorem readRequest_aborts :
    readRequest asciiText [.ok truncatedRequest] = .error .outOfBounds ∧
      readRequest asciiText [.ok hugeRequest] = .error .overflow := by
  decide +kernel

end AgentCore.Server
