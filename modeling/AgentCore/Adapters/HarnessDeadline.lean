import AgentCore.Adapters.ExternalHarness
import AgentCore.Foundation.Timed

/-!
# The time of a call to an external harness

The transport sets its timeouts on the socket, so each of them bounds one call of the system: one
connect, one write, one read. The request is written and the response is read in loops. What follows
is the time of the whole call, for a peer that chooses how much it takes and sends each time, and how
long it waits before.
-/

namespace AgentCore.Adapters

open Foundation Harness
open Domain hiding OperationSpec RegistrySnapshot

structure TimedTransportConfig extends ExternalHarnessTransportConfig where
  connectTimeoutMs : Nat := 3000
  writeTimeoutMs : Nat := 5000

/-- What a peer does, call by call: whether it accepts, for how many bytes of the request it has room
at each write, and the bytes (none at the end of the stream) or the failure of each read. After the
last of them it is silent. -/
structure Peer where
  resolve : Except String (List SocketAddress)
  connect : Except String Unit
  takes : List Nat
  sends : List (Except String (List UInt8))

structure Delays where
  connect : Nat
  (write read : Nat → Nat)

/-! ## Calls of the system -/

def waitFor {ε α : Type} (timeout delay : Nat) (late : ε) (x : Except ε α) : Timed ε α :=
  if timeout < delay then ⟨timeout, .error late⟩ else ⟨delay, x⟩

variable {ε α : Type} {timeout delay : Nat}

lemma elapsed_waitFor_le (timeout delay : Nat) (late : ε) (x : Except ε α) :
    (waitFor timeout delay late x).elapsed ≤ timeout := by
  unfold waitFor
  split
  · exact Nat.le_refl timeout
  · rename_i h
    exact Nat.le_of_not_lt h

lemma ok_of_waitFor (h : (waitFor timeout delay late x).result = .ok a) : x = .ok a := by
  unfold waitFor at h
  split at h
  · cases h
  · exact h

@[simp] lemma waitFor_self (timeout : Nat) (late : ε) (x : Except ε α) :
    waitFor timeout timeout late x = ⟨timeout, x⟩ := if_neg (Nat.lt_irrefl timeout)

def zeroTimeout : String := "cannot set a 0 duration timeout"

def setTimeout (timeout : Nat) : Except String Unit := require (timeout ≠ 0) zeroTimeout

def connectTimeout (timeout delay : Nat) (connect : Except String Unit) : Timed String Unit :=
  if timeout = 0 then .now (.error zeroTimeout)
  else waitFor timeout delay "connection timed out" connect

def writeAll (timeout : Nat) : (Nat → Nat) → Nat → List Nat → Timed String Unit
  | _, 0, _ => .now (.ok ())
  | _, _ + 1, [] => ⟨timeout, .error "Resource temporarily unavailable (os error 11)"⟩
  | delay, length + 1, taken :: takes => do
    waitFor timeout (delay 0) "Resource temporarily unavailable (os error 11)"
      (require (taken ≠ 0) "failed to write whole buffer")
    writeAll timeout (fun i => delay (i + 1)) (length + 1 - taken) takes

def readAll (timeout limit : Nat) :
    (Nat → Nat) → List UInt8 → List (Except String (List UInt8)) → Timed String (List UInt8)
  | _, _, [] => ⟨timeout, .error "external harness request timed out"⟩
  | delay, raw, piece :: pieces => do
    let bytes ← waitFor timeout (delay 0) "external harness request timed out"
      (piece.mapError ("read failed: " ++ ·))
    if bytes = [] then .now (.ok raw)
    else if limit < (raw ++ bytes).length then
      .now (.error s!"response exceeds {limit} byte limit")
    else readAll timeout limit (fun i => delay (i + 1)) (raw ++ bytes) pieces

/-! ## The call -/

def requestText (request : HarnessRequest) : String :=
  let authorization := (request.config.bearerToken.map fun token =>
    "Authorization: Bearer " ++ token ++ "\r\n").getD ""
  "POST " ++ request.path ++ " HTTP/1.1\r\nHost: " ++ request.address ++ "\r\n" ++ authorization ++
    "Content-Type: application/json\r\nContent-Length: " ++
    toString request.body.toText.utf8ByteSize ++ "\r\nConnection: close\r\n\r\n" ++
    request.body.toText

def HarnessRequest.length (request : HarnessRequest) : Nat := (requestText request).utf8ByteSize

def readEvents (timeout : Nat) : (Nat → Nat) → List (Except String (List UInt8)) → List ReadEvent
  | _, [] => [.timedOut]
  | delay, piece :: pieces =>
    (if timeout < delay 0 then .timedOut
      else match piece with
        | .ok bytes => .chunk bytes
        | .error reason => .failed reason) :: readEvents timeout (fun i => delay (i + 1)) pieces

def Peer.network (peer : Peer) (config : TimedTransportConfig) (length : Nat) (delays : Delays) :
    Network where
  resolve := peer.resolve
  connect := (connectTimeout config.connectTimeoutMs delays.connect peer.connect).result
  readTimeoutSet := setTimeout config.readTimeoutMs
  writeTimeoutSet := setTimeout config.writeTimeoutMs
  write := (writeAll config.writeTimeoutMs delays.write length peer.takes).result
  reads := readEvents config.readTimeoutMs delays.read peer.sends

def decodeUtf8 (raw : List UInt8) : Except String String :=
  match String.fromUTF8? ⟨raw.toArray⟩ with
  | none => throw "non-UTF-8 response from harness"
  | some response => return response

def receiveTimed (config : TimedTransportConfig) (peer : Peer) (length : Nat) (delays : Delays) :
    Timed String String := do
  (connectTimeout config.connectTimeoutMs delays.connect peer.connect).mapError
    ("connect failed: " ++ ·)
  .now ((setTimeout config.readTimeoutMs).mapError ("set_read_timeout failed: " ++ ·))
  .now ((setTimeout config.writeTimeoutMs).mapError ("set_write_timeout failed: " ++ ·))
  (writeAll config.writeTimeoutMs delays.write length peer.takes).mapError ("write failed: " ++ ·)
  let raw ← readAll config.readTimeoutMs config.maxResponseBytes delays.read [] peer.sends
  .now (decodeUtf8 raw)

lemma result_readAll (timeout limit : Nat) (delay : Nat → Nat) (raw : List UInt8)
    (pieces : List (Except String (List UInt8))) : (readAll timeout limit delay raw pieces).result =
      readResponse limit raw (readEvents timeout delay pieces) := by
  induction pieces generalizing delay raw with
  | nil => rfl
  | cons piece pieces ih =>
    simp only [readAll, readEvents, Timed.result_bind]
    unfold waitFor
    split
    · rfl
    · cases piece with
      | error reason => rfl
      | ok bytes =>
        simp only [Except.mapError, bind, Except.bind, readResponse]
        split
        · rfl
        · split
          · rfl
          · exact ih _ _

lemma result_receiveTimed (config : TimedTransportConfig) (peer : Peer) (length : Nat)
    (delays : Delays) : (receiveTimed config peer length delays).result =
      receive config.toExternalHarnessTransportConfig (peer.network config length delays) := by
  simp only [receiveTimed, receive, Timed.result_bind, Timed.result_now, Timed.mapError,
    Peer.network, result_readAll]
  rfl

section Execute

variable [Platform] (less : JsonNumber → JsonNumber → Bool) (jsonError : String → String)
  (manifest : HarnessManifest) (invocationId : InvocationId) (arguments : Json)
  (config : TimedTransportConfig) (registrySnapshotId : String) (now : Timestamp) (peer : Peer)

def Peer.request : Except String HarnessRequest :=
  prepareRequest manifest invocationId arguments config.toExternalHarnessTransportConfig
    registrySnapshotId (peer.network config 0 ⟨0, fun _ => 0, fun _ => 0⟩)

def executeTimed (delays : Delays) : Timed String Receipt := do
  let request ← .now (peer.request manifest invocationId arguments config registrySnapshotId)
  let response ← receiveTimed config peer request.length delays
  .now (parseResponse less jsonError manifest invocationId
    config.toExternalHarnessTransportConfig now response)

end Execute

/-! ## Waits -/

def writes : Nat → List Nat → Nat
  | 0, _ => 0
  | _ + 1, [] => 1
  | length + 1, taken :: takes =>
    if taken = 0 then 1 else writes (length + 1 - taken) takes + 1

def takesAll : Nat → List Nat → Bool
  | 0, _ => true
  | _ + 1, [] => false
  | length + 1, taken :: takes => taken ≠ 0 && takesAll (length + 1 - taken) takes

def reads (limit : Nat) : List UInt8 → List (Except String (List UInt8)) → Nat
  | _, [] => 1
  | _, .error _ :: _ => 1
  | raw, .ok bytes :: pieces =>
    if bytes = [] then 1
    else if limit < (raw ++ bytes).length then 1
    else reads limit (raw ++ bytes) pieces + 1

lemma elapsed_writeAll_le (timeout : Nat) (delay : Nat → Nat) (length : Nat) (takes : List Nat) :
    (writeAll timeout delay length takes).elapsed ≤ writes length takes * timeout := by
  induction takes generalizing delay length with
  | nil =>
    cases length with
    | zero => exact Nat.zero_le _
    | succ length => exact Nat.le_of_eq (Nat.one_mul timeout).symm
  | cons taken takes ih =>
    cases length with
    | zero => exact Nat.zero_le _
    | succ length =>
      have hfirst := elapsed_waitFor_le timeout (delay 0)
        "Resource temporarily unavailable (os error 11)"
        (require (taken ≠ 0) "failed to write whole buffer")
      have hrest := ih (fun i => delay (i + 1)) (length + 1 - taken)
      by_cases htaken : taken = 0
      · -- A write of nothing is an error, and the last one.
        have hstop : (writeAll timeout delay (length + 1) (taken :: takes)).elapsed ≤ timeout + 0 := by
          refine Timed.elapsed_bind_le hfirst fun u hu => ?_
          exact absurd (require_eq_ok.mp (ok_of_waitFor hu)) (not_not_intro htaken)
        rw [writes, if_pos htaken, Nat.one_mul]
        exact hstop
      · rw [writes, if_neg htaken, Nat.succ_mul, Nat.add_comm (_ * _)]
        exact Timed.elapsed_bind_le hfirst fun _ _ => hrest

lemma writeAll_slowest (timeout length : Nat) (takes : List Nat) :
    (writeAll timeout (fun _ => timeout) length takes).elapsed = writes length takes * timeout ∧
      ((writeAll timeout (fun _ => timeout) length takes).result = .ok () ↔
        takesAll length takes = true) := by
  induction takes generalizing length with
  | nil =>
    cases length with
    | zero => exact ⟨(Nat.zero_mul timeout).symm, by simp [writeAll, takesAll]⟩
    | succ length => exact ⟨(Nat.one_mul timeout).symm, by simp [writeAll, takesAll]⟩
  | cons taken takes ih =>
    cases length with
    | zero => exact ⟨(Nat.zero_mul timeout).symm, by simp [writeAll, takesAll]⟩
    | succ length =>
      simp only [writeAll, waitFor_self, writes, takesAll]
      by_cases htaken : taken = 0
      · rw [Timed.bind_of_error (e := "failed to write whole buffer") (if_neg (not_not_intro htaken)),
          if_pos htaken]
        simp [htaken]
      · obtain ⟨helapsed, hresult⟩ := ih (length + 1 - taken)
        rw [Timed.bind_of_ok (a := ()) (if_pos htaken), if_neg htaken]
        refine ⟨?_, ?_⟩
        · simp only [helapsed]
          rw [Nat.succ_mul, Nat.add_comm]
        · simp only [hresult, ne_eq, htaken, not_false_eq_true, decide_true, Bool.true_and]

lemma takesAll_of_writeAll {delay : Nat → Nat}
    (h : (writeAll timeout delay length takes).result = .ok ()) : takesAll length takes = true := by
  induction takes generalizing delay length with
  | nil =>
    cases length with
    | zero => rfl
    | succ length => cases h
  | cons taken takes ih =>
    cases length with
    | zero => rfl
    | succ length =>
      rw [writeAll, Timed.result_bind, check_bind_eq_ok] at h
      have htaken : taken ≠ 0 := require_eq_ok.mp (ok_of_waitFor h.1)
      rw [takesAll, ih h.2, decide_eq_true htaken]
      rfl

lemma elapsed_readAll_le (timeout limit : Nat) (delay : Nat → Nat) (raw : List UInt8)
    (pieces : List (Except String (List UInt8))) :
    (readAll timeout limit delay raw pieces).elapsed ≤ reads limit raw pieces * timeout := by
  induction pieces generalizing delay raw with
  | nil => exact Nat.le_of_eq (Nat.one_mul timeout).symm
  | cons piece pieces ih =>
    have hfirst := elapsed_waitFor_le timeout (delay 0) "external harness request timed out"
      (piece.mapError ("read failed: " ++ ·))
    cases piece with
    | error reason =>
      rw [reads, Nat.one_mul]
      refine Timed.elapsed_bind_le (n := 0) hfirst fun bytes hbytes => ?_
      cases ok_of_waitFor hbytes
    | ok bytes =>
      -- What comes after this read, for the bytes that it gives.
      have hrest : ∀ n, (bytes ≠ [] → ¬ limit < (raw ++ bytes).length →
          reads limit (raw ++ bytes) pieces * timeout ≤ n) →
          (readAll timeout limit delay raw (.ok bytes :: pieces)).elapsed ≤ timeout + n := by
        intro n hn
        refine Timed.elapsed_bind_le hfirst fun bytes' hbytes => ?_
        cases ok_of_waitFor hbytes
        split
        · exact Nat.zero_le n
        · split
          · exact Nat.zero_le n
          · rename_i hne hfits
            exact Nat.le_trans (ih _ _) (hn hne hfits)
      rw [reads]
      split
      · rename_i hempty
        rw [Nat.one_mul]
        exact hrest 0 fun hne => absurd hempty hne
      · split
        · rename_i hover
          rw [Nat.one_mul]
          exact hrest 0 fun _ hfits => absurd hover hfits
        · rw [Nat.succ_mul, Nat.add_comm (_ * _)]
          exact hrest _ fun _ _ => Nat.le_refl _

lemma elapsed_readAll_slowest (timeout limit : Nat) (raw : List UInt8)
    (pieces : List (Except String (List UInt8))) :
    (readAll timeout limit (fun _ => timeout) raw pieces).elapsed =
      reads limit raw pieces * timeout := by
  induction pieces generalizing raw with
  | nil => exact (Nat.one_mul timeout).symm
  | cons piece pieces ih =>
    simp only [readAll, waitFor_self]
    cases piece with
    | error reason => exact (Nat.one_mul timeout).symm
    | ok bytes =>
      rw [Timed.bind_of_ok (a := bytes) rfl, reads]
      dsimp only
      split
      · exact (Nat.one_mul timeout).symm
      · split
        · exact (Nat.one_mul timeout).symm
        · rw [ih, Nat.succ_mul, Nat.add_comm]

/-- The waits that a peer can impose: a timeout for each write and, once it has the request, one
for each read. -/
def imposedWait (config : TimedTransportConfig) (peer : Peer) (length : Nat) : Nat :=
  writes length peer.takes * config.writeTimeoutMs +
    if takesAll length peer.takes then
      reads config.maxResponseBytes [] peer.sends * config.readTimeoutMs
    else 0

structure Sends (config : TimedTransportConfig) (peer : Peer) : Prop where
  connectTimeout : config.connectTimeoutMs ≠ 0
  connects : peer.connect = .ok ()
  readTimeout : config.readTimeoutMs ≠ 0
  writeTimeout : config.writeTimeoutMs ≠ 0

lemma elapsed_connectTimeout_le (timeout delay : Nat) (connect : Except String Unit) :
    (connectTimeout timeout delay connect).elapsed ≤ timeout := by
  unfold connectTimeout
  split
  · exact Nat.zero_le timeout
  · exact elapsed_waitFor_le timeout delay _ connect

lemma connects_of_connectTimeout (h : (connectTimeout timeout delay connect).result = .ok ()) :
    timeout ≠ 0 ∧ connect = .ok () := by
  unfold connectTimeout at h
  split at h
  · cases h
  · rename_i hne
    exact ⟨hne, ok_of_waitFor h⟩

lemma elapsed_receiveTimed_le (config : TimedTransportConfig) (peer : Peer) (length : Nat)
    (delays : Delays) {n : Nat} (hn : Sends config peer → imposedWait config peer length ≤ n) :
    (receiveTimed config peer length delays).elapsed ≤ config.connectTimeoutMs + n := by
  refine Timed.elapsed_bind_le (elapsed_connectTimeout_le _ delays.connect peer.connect) ?_
  intro u hconnect
  obtain ⟨hzero, hconnects⟩ := connects_of_connectTimeout (mapError_eq_ok.mp hconnect)
  rw [← Nat.zero_add n]
  refine Timed.elapsed_bind_le (Nat.le_refl 0) fun _ hread => ?_
  rw [← Nat.zero_add n]
  refine Timed.elapsed_bind_le (Nat.le_refl 0) fun _ hwrite => ?_
  have hsends : Sends config peer :=
    ⟨hzero, hconnects, require_eq_ok.mp (mapError_eq_ok.mp hread),
      require_eq_ok.mp (mapError_eq_ok.mp hwrite)⟩
  refine Nat.le_trans ?_ (hn hsends)
  refine Timed.elapsed_bind_le (elapsed_writeAll_le _ delays.write length peer.takes) ?_
  intro _ hwritten
  rw [if_pos (takesAll_of_writeAll (mapError_eq_ok.mp hwritten)), Timed.elapsed_bind_now]
  exact elapsed_readAll_le _ _ delays.read [] peer.sends

def slowest (config : TimedTransportConfig) : Delays :=
  ⟨config.connectTimeoutMs, fun _ => config.writeTimeoutMs, fun _ => config.readTimeoutMs⟩

lemma elapsed_receiveTimed_slowest (h : Sends config peer) (length : Nat) :
    (receiveTimed config peer length (slowest config)).elapsed =
      config.connectTimeoutMs + imposedWait config peer length := by
  have hconnect : connectTimeout config.connectTimeoutMs config.connectTimeoutMs peer.connect =
      ⟨config.connectTimeoutMs, .ok ()⟩ := by
    rw [connectTimeout, if_neg h.connectTimeout, waitFor_self, h.connects]
  have hread : setTimeout config.readTimeoutMs = .ok () := require_eq_ok.mpr h.readTimeout
  have hwrite : setTimeout config.writeTimeoutMs = .ok () := require_eq_ok.mpr h.writeTimeout
  obtain ⟨hwrites, htakes⟩ := writeAll_slowest config.writeTimeoutMs length peer.takes
  have hreads := elapsed_readAll_slowest config.readTimeoutMs config.maxResponseBytes [] peer.sends
  simp only [receiveTimed, slowest, hconnect, hread, hwrite]
  rw [Timed.bind_of_ok (a := ()) rfl, Timed.bind_of_ok (a := ()) rfl, Timed.bind_of_ok (a := ()) rfl]
  simp only [Timed.elapsed_now, Nat.zero_add, Timed.mapError, imposedWait]
  congr 1
  by_cases hall : takesAll length peer.takes = true
  · have hwritten : (writeAll config.writeTimeoutMs (fun _ => config.writeTimeoutMs) length
        peer.takes).result = .ok () := htakes.mpr hall
    rw [Timed.bind_of_ok (a := ()) (mapError_eq_ok.mpr hwritten), if_pos hall, hwrites,
      Timed.elapsed_bind_now, hreads]
  · rw [if_neg hall]
    cases hwritten : (writeAll config.writeTimeoutMs (fun _ => config.writeTimeoutMs) length
        peer.takes).result with
    | ok u => exact absurd (htakes.mp hwritten) hall
    | error e =>
      rw [Timed.bind_of_error (e := "write failed: " ++ e) rfl, hwrites]
      rfl

section Prompt

variable [Platform] (less : JsonNumber → JsonNumber → Bool) (jsonError : String → String)
  (manifest : HarnessManifest) (invocationId : InvocationId) (arguments : Json)
  (config : TimedTransportConfig) (registrySnapshotId : String) (now : Timestamp) (peer : Peer)

lemma elapsed_executeTimed
    (h : peer.request manifest invocationId arguments config registrySnapshotId = .ok request)
    (delays : Delays) :
    (executeTimed less jsonError manifest invocationId arguments config registrySnapshotId now peer
      delays).elapsed = (receiveTimed config peer request.length delays).elapsed := by
  unfold executeTimed
  rw [Timed.bind_of_ok (a := request) h, Timed.elapsed_bind_now, Timed.elapsed_now, Nat.zero_add]

/-- The call returns within the sum of the three timeouts, whatever the delays, exactly if the
writes and reads that the peer imposes fit into one write timeout and one read timeout. Where the
read timeout is what remains of a run, or less, the run then waits past its deadline for no longer
than the other two. -/
theorem executeTimed_prompt_iff :
    (∀ delays,
      (executeTimed less jsonError manifest invocationId arguments config registrySnapshotId now peer
        delays).elapsed ≤
          config.connectTimeoutMs + config.writeTimeoutMs + config.readTimeoutMs ∧
      ∀ remaining configured, config.readTimeoutMs = min remaining configured →
        (executeTimed less jsonError manifest invocationId arguments config registrySnapshotId now
          peer delays).elapsed ≤
            remaining + (config.connectTimeoutMs + config.writeTimeoutMs)) ↔
    ∀ request, peer.request manifest invocationId arguments config registrySnapshotId = .ok request →
      Sends config peer →
      imposedWait config peer request.length ≤ config.writeTimeoutMs + config.readTimeoutMs := by
  constructor
  · intro hprompt request hrequest hsends
    have hslowest := (hprompt (slowest config)).1
    rw [elapsed_executeTimed less jsonError manifest invocationId arguments config
      registrySnapshotId now peer hrequest, elapsed_receiveTimed_slowest hsends] at hslowest
    omega
  · intro hwait delays
    have htotal : (executeTimed less jsonError manifest invocationId arguments config
        registrySnapshotId now peer delays).elapsed ≤
          config.connectTimeoutMs + (config.writeTimeoutMs + config.readTimeoutMs) := by
      cases hrequest : peer.request manifest invocationId arguments config registrySnapshotId with
      | error e =>
        unfold executeTimed
        rw [Timed.bind_of_error (e := e) hrequest]
        exact Nat.zero_le _
      | ok request =>
        rw [elapsed_executeTimed less jsonError manifest invocationId arguments config
          registrySnapshotId now peer hrequest]
        exact elapsed_receiveTimed_le config peer request.length delays (hwait request hrequest)
    refine ⟨by omega, fun remaining configured hread => ?_⟩
    have hremaining : config.readTimeoutMs ≤ remaining := hread ▸ Nat.min_le_left _ _
    omega

end Prompt

/-! ### A harness that answers byte by byte -/

def drippingManifest : HarnessManifest where
  manifestId := "m"
  harnessId := "h"
  artifactDigest := ""
  protocolVersion := "external-harness-v1"
  endpoint := "http://127.0.0.1:9000/run"
  operationName := "external.a"
  description := ""
  inputSchema := .null
  outputSchema := .null
  idempotent := true
  createdAt := 0

def drippingPeer : Peer where
  resolve := .ok [⟨"127.0.0.1:9000", true⟩]
  connect := .ok ()
  takes := [100000]
  sends := [.ok [72], .ok [84], .ok [84], .ok []]

def drippingConfig : TimedTransportConfig := { readTimeoutMs := 10000, bearerToken := none }

/-- With a peer that lets each read wait for nine seconds a call takes 36, and the timeouts are
three, five and ten: no read is late. -/
theorem executeTimed_dripping :
    letI := zeroPlatform
    (executeTimed (fun _ _ => false) id drippingManifest "i" .null drippingConfig "" 0 drippingPeer
        ⟨0, fun _ => 0, fun _ => 9000⟩).elapsed = 36000 ∧
      drippingConfig.connectTimeoutMs + drippingConfig.writeTimeoutMs +
        drippingConfig.readTimeoutMs = 18000 := by
  decide +kernel

end AgentCore.Adapters
