import AgentCore.Hook.Contract

/-!
# Answers of context providers are authentic

The bytes under the proof are framed fields, seven and one for each artifact in the context hook and
six in the budget hook. They can be read back in one way only, so a proof binds an answer to all of
its fields and to its hook. The contents of the artifacts and the immutable references are bound
through their digests; ids and media types of artifacts are not under the proof.
-/

namespace AgentCore.Hook

open Foundation List

/-! ## What the messages bind -/

variable {r s : ContextHookResponse} {request : ContextHookRequest} {proof : List Char}
  {posted : Posted} {config : HookConfig} {artifacts : List OpaqueArtifactRef}

lemma framable_texts (texts : List Text) : Framable (texts.map Text.asBytes) := by
  intro field hfield
  obtain ⟨t, -, rfl⟩ := mem_map.mp hfield
  exact t.asBytes_length

lemma frames_texts_inj {texts others : List Text}
    (h : frames (texts.map Text.asBytes) = frames (others.map Text.asBytes)) : texts = others :=
  map_injective_iff.mpr Text.asBytes_injective
    (frames_inj (framable_texts texts) (framable_texts others) h)

structure SameContext (r s : ContextHookResponse) : Prop where
  runId : r.runId = s.runId
  sessionId : r.sessionId = s.sessionId
  scopeDigest : r.scopeDigest = s.scopeDigest
  candidateDigest : r.candidateDigest = s.candidateDigest
  immutableRefsDigest : r.immutableRefsDigest = s.immutableRefsDigest
  digests : r.artifacts.map OpaqueArtifactRef.digest = s.artifacts.map OpaqueArtifactRef.digest

lemma SameContext.artifacts_ne_nil (h : SameContext r s) (hs : s.artifacts ≠ []) :
    r.artifacts ≠ [] := by
  intro hr
  have hdigests := h.digests
  rw [hr, map_nil] at hdigests
  exact hs (map_eq_nil_iff.mp hdigests.symm)

lemma contextMessage_inj {p q i j : Text}
    (h : r.authenticationMessage p i = s.authenticationMessage q j) :
    p = q ∧ i = j ∧ SameContext r s := by
  have hfields := frames_texts_inj h
  simp only [ContextHookResponse.authenticatedFields, cons_append, nil_append,
    cons.injEq] at hfields
  obtain ⟨hprovider, hrequest, hrun, hsession, hscope, hcandidate, hrefs, hdigests⟩ := hfields
  exact ⟨hprovider, hrequest, hrun, hsession, hscope, hcandidate, hrefs, hdigests⟩

lemma contextMessage_ne_budgetMessage (r : ContextHookResponse) (b : RunBudgetHookResponse)
    (p i q : Text) : r.authenticationMessage p i ≠ b.authenticationMessage q := by
  intro h
  have hlength := congrArg length (frames_texts_inj h)
  simp only [ContextHookResponse.authenticatedFields, RunBudgetHookResponse.authenticatedFields,
    length_append, length_cons, length_nil, length_map] at hlength
  omega

lemma refFields_injective : Function.Injective refFields := by
  intro refs
  induction refs with
  | nil =>
    intro others h
    cases others with
    | nil => rfl
    | cons item others => exact absurd h.symm (cons_ne_nil _ _)
  | cons item refs ih =>
    intro others h
    cases others with
    | nil => exact absurd h (cons_ne_nil _ _)
    | cons other others =>
      simp only [refFields, flatMap_cons, cons_append, nil_append,
        cons.injEq] at h
      obtain ⟨hid, hdigest, hrest⟩ := h
      have hitem : item = other := by
        cases item
        cases other
        rw [ImmutableArtifactRef.mk.injEq]
        exact ⟨Text.asBytes_injective hid, Text.asBytes_injective hdigest⟩
      rw [hitem, ih hrest]

lemma framable_refFields (refs : List ImmutableArtifactRef) : Framable (refFields refs) := by
  intro field hfield
  simp only [refFields, mem_flatMap, mem_cons, not_mem_nil, or_false] at hfield
  obtain ⟨item, -, rfl | rfl⟩ := hfield
  · exact item.id.asBytes_length
  · exact item.digest.asBytes_length

section Crypto

variable [HookCrypto] {accepted : Authenticated ContextHookResponse} {bytes : Bytes}

lemma computeDigest_injective (hsha : Function.Injective HookCrypto.sha256Hex) :
    Function.Injective computeDigest := by
  intro x y h
  have hlist := congrArg String.toList h
  simp only [computeDigest, String.toList_append, append_cancel_left_eq] at hlist
  exact hsha (String.toList_inj.mp hlist)

lemma digestImmutableRefs_injective (hsha : Function.Injective HookCrypto.sha256Hex) :
    Function.Injective digestImmutableRefs := by
  intro refs others h
  have hframes : frames (refFields refs) = frames (refFields others) :=
    computeDigest_injective hsha h
  exact refFields_injective
    (frames_inj (framable_refFields refs) (framable_refFields others) hframes)

/-! ## What an accepted answer has passed -/

lemma decodeVerified_digest {a : OpaqueArtifactRef}
    (h : a.decodeVerified = .ok bytes) : computeDigest bytes = a.digest.str := by
  simp only [OpaqueArtifactRef.decodeVerified, bind_eq_ok, require_eq_ok, okOr_eq_ok,
    return_eq_ok, exists_const] at h
  obtain ⟨-, digest, hdigest, decoded, -, hcomputed, rfl⟩ := h
  simp only [parseDigest, check_bind_eq_ok, require_eq_ok, return_eq_ok] at hdigest
  obtain ⟨-, -, -, -, rfl⟩ := hdigest
  exact hcomputed

structure Fits (r : ContextHookResponse) (request : ContextHookRequest) : Prop where
  runId : r.runId = request.candidate.runId
  sessionId : r.sessionId = request.candidate.sessionId
  scopeDigest : r.scopeDigest = request.candidate.scopeDigest
  candidateDigest : r.candidateDigest = request.candidate.artifact.digest
  immutableRefs : r.immutableRefs = request.candidate.immutableRefs
  immutableRefsDigest : r.immutableRefsDigest = request.candidate.immutableRefsDigest
  refsHashed : digestImmutableRefs r.immutableRefs = r.immutableRefsDigest.str

lemma fits_of_validateAgainst (h : r.validateAgainst request = .ok ()) : Fits r request := by
  simp only [ContextHookResponse.validateAgainst, check_bind_eq_ok, require_eq_ok] at h
  obtain ⟨⟨hrun, hsession⟩, hscope, hcandidate, ⟨hrefs, hrefsDigest, hhashed⟩, -⟩ := h
  exact ⟨hrun, hsession, hscope, hcandidate, hrefs, hrefsDigest, hhashed⟩

lemma verifyProviderProof_ok : verifyProviderProof secret message proof = .ok () ↔
      hexDecode proof = some (HookCrypto.hmacSha256 secret.asBytes message) := by
  simp only [verifyProviderProof, bind_eq_ok, okOr_eq_ok, require_eq_ok]
  constructor
  · rintro ⟨tag, htag, rfl⟩
    exact htag
  · intro h
    exact ⟨_, h, rfl⟩

omit [HookCrypto] in
lemma receiveEnvelope_proof [HookWire]
    (h : receiveEnvelope posted config hook requestId = .ok (payload, proof)) :
    ∃ body, posted = .ok (body, proof) := by
  simp only [receiveEnvelope, bind_eq_ok, require_eq_ok, return_eq_ok, exists_const] at h
  obtain ⟨-, -, ⟨body, header⟩, hposted, envelope, -, -, -, ⟨⟩⟩ := h
  exact ⟨body, hposted⟩

lemma callContext_ok [HookWire] (h : callContext posted request config = .ok accepted) :
    ∃ body proof, posted = .ok (body, proof) ∧ Fits accepted.response request ∧
      verifyProviderProof config.sharedSecret
        (accepted.response.authenticationMessage config.providerId request.requestId) proof
          = .ok () := by
  simp only [callContext, bind_eq_ok, okOr_eq_ok, return_eq_ok] at h
  obtain ⟨⟨payload, proof⟩, hreceived, response, -, ⟨⟩, hvalid, ⟨⟩, hproof, rfl⟩ := h
  obtain ⟨body, hposted⟩ := receiveEnvelope_proof hreceived
  exact ⟨body, proof, hposted, fits_of_validateAgainst hvalid, hproof⟩

lemma callBudget_ok [HookWire] {request : RunBudgetHookRequest}
    {accepted : Authenticated RunBudgetHookResponse}
    (h : callBudget posted request config = .ok accepted) :
    ∃ body proof, posted = .ok (body, proof) ∧ verifyProviderProof config.sharedSecret
        (accepted.response.authenticationMessage config.providerId) proof = .ok () := by
  simp only [callBudget, bind_eq_ok, okOr_eq_ok, return_eq_ok] at h
  obtain ⟨⟨payload, proof⟩, hreceived, response, -, ⟨⟩, -, ⟨⟩, hproof, rfl⟩ := h
  obtain ⟨body, hposted⟩ := receiveEnvelope_proof hreceived
  exact ⟨body, proof, hposted, hproof⟩

lemma mac_eq_of_verify (hmade : computeProof emptySecret secret m = .ok proof)
    (hpasses : verifyProviderProof secret' m' proof = .ok ()) :
    HookCrypto.hmacSha256 secret.asBytes m = HookCrypto.hmacSha256 secret'.asBytes m' := by
  unfold computeProof at hmade
  split at hmade
  · cases hmade
  · cases hmade
    rw [verifyProviderProof_ok, hexDecode_hexEncode] at hpasses
    exact Option.some.inj hpasses

/-! ## Contents of artifacts -/

def HasDigests (artifacts : List OpaqueArtifactRef) (contents : List Bytes) : Prop :=
  List.Forall₂ (fun digest bytes => computeDigest bytes = digest.str)
    (artifacts.map OpaqueArtifactRef.digest) contents

lemma SameContext.hasDigests (h : SameContext r s) :
    HasDigests r.artifacts contents ↔ HasDigests s.artifacts contents := by
  unfold HasDigests
  rw [h.digests]

lemma HasDigests.unique (hsha : Function.Injective HookCrypto.sha256Hex)
    (h : HasDigests artifacts contents) (h' : HasDigests artifacts others) : contents = others := by
  unfold HasDigests at h h'
  generalize artifacts.map OpaqueArtifactRef.digest = digests at h h'
  induction h generalizing others with
  | nil =>
    cases h'
    rfl
  | cons hfirst _ ih =>
    cases h' with
    | cons hother hrest =>
      have hhead := computeDigest_injective hsha (hfirst.trans hother.symm)
      rw [hhead, ih hrest]

lemma artifactBytes_ok {mediaType : Text} (h : artifactBytes mediaType artifacts = .ok bytes) :
    ∃ contents, HasDigests artifacts contents ∧ contents.flatten = bytes := by
  induction artifacts generalizing bytes with
  | nil =>
    cases h
    exact ⟨[], .nil, rfl⟩
  | cons artifact artifacts ih =>
    simp only [artifactBytes, bind_eq_ok, require_eq_ok, return_eq_ok, exists_const] at h
    obtain ⟨-, first, hfirst, rest, hrest, rfl⟩ := h
    obtain ⟨contents, hcontents, rfl⟩ := ih hrest
    exact ⟨first :: contents, .cons (decodeVerified_digest hfirst) hcontents, rfl⟩

section Adapter

variable {LlmInput : Type} [ModelAdapter LlmInput] {candidate : AdapterCandidate}

def decodeBytes (candidate : AdapterCandidate) (bytes : Bytes) : Except String LlmInput := do
  let input ← okOr (ModelAdapter.fromSlice bytes) "model_adapter_artifact"
  ModelAdapter.validateWireInput input
  let refs ← ModelAdapter.immutableRefsFor input
  require (refs = candidate.immutableRefs) "model_adapter_immutable_input_changed"
  return input

lemma decodeArtifacts_ok_iff {input : LlmInput} :
    decodeArtifacts candidate artifacts = .ok input ↔ artifacts ≠ [] ∧ ∃ bytes,
      artifactBytes candidate.mediaType artifacts = .ok bytes ∧
        decodeBytes candidate bytes = .ok input := by
  simp only [decodeArtifacts, decodeBytes, check_bind_eq_ok, require_eq_ok]
  rw [bind_eq_ok]

end Adapter

end Crypto

/-! ## The provider -/

structure SignedContext where
  (providerId requestId : Text)
  response : ContextHookResponse

def SignedContext.message (a : SignedContext) : Bytes :=
  a.response.authenticationMessage a.providerId a.requestId

structure SignedBudget where
  providerId : Text
  response : RunBudgetHookResponse

def SignedBudget.message (b : SignedBudget) : Bytes := b.response.authenticationMessage b.providerId

structure Provider where
  contexts : List SignedContext
  budgets : List SignedBudget

def Provider.Signed (provider : Provider) (message : Bytes) : Prop :=
  (∃ a ∈ provider.contexts, a.message = message) ∨ ∃ b ∈ provider.budgets, b.message = message

section Authenticity

variable [HookCrypto] {LlmInput : Type} [ModelAdapter LlmInput] {a : SignedContext}

/-- Nobody but the provider makes MACs under the secret: the proof that comes over the network
passes only for messages the provider signed. -/
def Unforgeable (provider : Provider) (secret : Text) (posted : Posted) : Prop :=
  ∀ body proof message, posted = .ok (body, proof) →
    verifyProviderProof secret message proof = .ok () → provider.Signed message

structure SignedContext.Answers (a : SignedContext) (request : ContextHookRequest)
    (config : HookConfig) : Prop where
  providerId : a.providerId = config.providerId
  requestId : a.requestId = request.requestId
  runId : a.response.runId = request.candidate.runId
  sessionId : a.response.sessionId = request.candidate.sessionId
  scopeDigest : a.response.scopeDigest = request.candidate.scopeDigest
  candidateDigest : a.response.candidateDigest = request.candidate.artifact.digest
  immutableRefsDigest : a.response.immutableRefsDigest = request.candidate.immutableRefsDigest
  immutableRefs : ∀ refs, digestImmutableRefs refs = a.response.immutableRefsDigest.str →
    refs = request.candidate.immutableRefs

structure SignedContext.DecodesTo (a : SignedContext) (candidate : AdapterCandidate)
    (input : LlmInput) : Prop where
  contents : ∃ contents, HasDigests a.response.artifacts contents ∧
    (∀ others, HasDigests a.response.artifacts others → others = contents) ∧
      decodeBytes candidate contents.flatten = .ok input
  artifacts : ∀ bytes, artifactBytes candidate.mediaType a.response.artifacts = .ok bytes →
    decodeArtifacts candidate a.response.artifacts = .ok input

lemma callContext_signed [HookWire] (hforge : Unforgeable provider config.sharedSecret posted)
    (hcall : callContext posted request config = .ok accepted) :
    Fits accepted.response request ∧ ∃ a ∈ provider.contexts, a.providerId = config.providerId ∧
      a.requestId = request.requestId ∧ SameContext a.response accepted.response := by
  obtain ⟨body, proof, hposted, hfits, hproof⟩ := callContext_ok hcall
  refine ⟨hfits, ?_⟩
  rcases hforge body proof _ hposted hproof with ⟨a, ha, hmessage⟩ | ⟨b, -, hmessage⟩
  · exact ⟨a, ha, contextMessage_inj hmessage⟩
  · exact absurd hmessage.symm (contextMessage_ne_budgetMessage _ _ _ _ _)

lemma answers_of_fits (hsha : Function.Injective HookCrypto.sha256Hex)
    (hprovider : a.providerId = config.providerId) (hrequest : a.requestId = request.requestId)
    (hsame : SameContext a.response r) (hfits : Fits r request) : a.Answers request config where
  providerId := hprovider
  requestId := hrequest
  runId := hsame.runId.trans hfits.runId
  sessionId := hsame.sessionId.trans hfits.sessionId
  scopeDigest := hsame.scopeDigest.trans hfits.scopeDigest
  candidateDigest := hsame.candidateDigest.trans hfits.candidateDigest
  immutableRefsDigest := hsame.immutableRefsDigest.trans hfits.immutableRefsDigest
  immutableRefs refs hrefs := by
    rw [hsame.immutableRefsDigest, ← hfits.refsHashed] at hrefs
    rw [digestImmutableRefs_injective hsha hrefs, hfits.immutableRefs]

lemma decodesTo_of_decodeArtifacts (hsha : Function.Injective HookCrypto.sha256Hex)
    {input : LlmInput} (hsame : SameContext a.response r)
    (hdecode : decodeArtifacts candidate r.artifacts = .ok input) :
    a.DecodesTo candidate input := by
  obtain ⟨hne, bytes, hbytes, hinput⟩ := decodeArtifacts_ok_iff.mp hdecode
  obtain ⟨contents, hdigests, rfl⟩ := artifactBytes_ok hbytes
  have hsigned : HasDigests a.response.artifacts contents := hsame.hasDigests.mpr hdigests
  refine ⟨⟨contents, hsigned, fun others hothers => hothers.unique hsha hsigned, hinput⟩, ?_⟩
  intro signedBytes hsignedBytes
  obtain ⟨others, hothers, rfl⟩ := artifactBytes_ok hsignedBytes
  rw [hothers.unique hsha hsigned] at hsignedBytes
  exact decodeArtifacts_ok_iff.mpr
    ⟨hsame.artifacts_ne_nil hne, contents.flatten, hsignedBytes, hinput⟩

/-- An accepted context answer whose artifacts decode is, in all it binds, one that the provider
signed for this request, and the model input is the decoding of what was signed. No proof made in
one of the two hooks is accepted in the other. -/
theorem contextAnswers_authentic [HookWire] (hsha : Function.Injective HookCrypto.sha256Hex)
    (hmac : ∀ key key' m m', HookCrypto.hmacSha256 key m = HookCrypto.hmacSha256 key' m' → m = m') :
    (∀ (provider : Provider) (posted : Posted) (request : ContextHookRequest) (config : HookConfig)
        (accepted : Authenticated ContextHookResponse) (candidate : AdapterCandidate)
        (input : LlmInput),
      Unforgeable provider config.sharedSecret posted →
      callContext posted request config = .ok accepted →
      decodeArtifacts candidate accepted.response.artifacts = .ok input →
      ∃ a ∈ provider.contexts, a.Answers request config ∧ a.DecodesTo candidate input) ∧
    (∀ (b : SignedBudget) (secret : Text) (proof : List Char) (body : String)
        (request : ContextHookRequest) (config : HookConfig)
        (accepted : Authenticated ContextHookResponse),
      computeBudgetProviderProof secret b.message = .ok proof →
      callContext (.ok (body, proof)) request config ≠ .ok accepted) ∧
    (∀ (a : SignedContext) (secret : Text) (proof : List Char) (body : String)
        (request : RunBudgetHookRequest) (config : HookConfig)
        (accepted : Authenticated RunBudgetHookResponse),
      computeProviderProof secret a.message = .ok proof →
      callBudget (.ok (body, proof)) request config ≠ .ok accepted) := by
  refine ⟨?_, ?_, ?_⟩
  · intro provider posted request config accepted candidate input hforge hcall hdecode
    obtain ⟨hfits, a, ha, hprovider, hrequest, hsame⟩ := callContext_signed hforge hcall
    exact ⟨a, ha, answers_of_fits hsha hprovider hrequest hsame hfits,
      decodesTo_of_decodeArtifacts hsha hsame hdecode⟩
  · intro b secret proof body request config accepted hmade hcall
    obtain ⟨body', proof', hposted, -, hproof⟩ := callContext_ok hcall
    cases hposted
    have hmessage := hmac _ _ _ _ (mac_eq_of_verify hmade hproof)
    exact contextMessage_ne_budgetMessage _ _ _ _ _ hmessage.symm
  · intro a secret proof body request config accepted hmade hcall
    obtain ⟨body', proof', hposted, hproof⟩ := callBudget_ok hcall
    cases hposted
    have hmessage := hmac _ _ _ _ (mac_eq_of_verify hmade hproof)
    exact contextMessage_ne_budgetMessage _ _ _ _ _ hmessage

end Authenticity

/-! ### A signed answer that is accepted -/

def paddedHex (bytes : Bytes) : String :=
  String.ofList (replicate (63 - 2 * bytes.length) '0' ++ '1' :: hexEncode bytes)

lemma paddedHex_injective : Function.Injective paddedHex := by
  -- After the zeros and the one, the digits read back.
  have hread : ∀ bytes, hexDecode ((paddedHex bytes).toList.dropWhile (· == '0')).tail = some bytes := by
    intro bytes
    have hzeros : ∀ c ∈ replicate (63 - 2 * bytes.length) '0', (c == '0') = true := by
      intro c hc
      rw [eq_of_mem_replicate hc]
      rfl
    rw [paddedHex, String.toList_ofList, dropWhile_blank_append hzeros,
      dropWhile_cons_of_neg (by decide), tail_cons, hexDecode_hexEncode]
  intro x y h
  have hx := hread x
  rw [h, hread y] at hx
  exact (Option.some.inj hx).symm

@[reducible] def sampleCrypto : HookCrypto where
  sha256Hex := paddedHex
  hmacSha256 _ message := message

def sampleText (s : String) (h : s.utf8ByteSize < 2 ^ 64 := by decide) : Text := ⟨s, h⟩

def sampleArtifact : OpaqueArtifactRef where
  id := sampleText "artifact"
  digest := sampleText "sha256:0000000000000000000000000000000000000000000000000000000000016869"
  mediaType := sampleText "text"
  contentHex := sampleText "6869"

def sampleRequest : ContextHookRequest where
  requestId := sampleText "context:1"
  candidate :=
    { runId := sampleText "run"
      sessionId := sampleText "session"
      scopeDigest := sampleText "scope"
      artifact := sampleArtifact
      immutableRefs := []
      immutableRefsDigest :=
        sampleText "sha256:0000000000000000000000000000000000000000000000000000000000000001" }

def sampleResponse : ContextHookResponse where
  runId := sampleText "run"
  sessionId := sampleText "session"
  scopeDigest := sampleText "scope"
  candidateDigest := sampleArtifact.digest
  immutableRefs := []
  immutableRefsDigest := sampleRequest.candidate.immutableRefsDigest
  artifacts := [sampleArtifact]

def sampleConfig : HookConfig where
  enabled := true
  kind := .contextPrepareV0
  url := "http://127.0.0.1:9000"
  timeoutMs := 5000
  maxRequestBytes := 1048576
  maxResponseBytes := 1048576
  failureMode := .failClosed
  providerId := sampleText "provider"
  sharedSecret := sampleText "secret"

@[reducible] def sampleWire : HookWire where
  readEnvelope _ := some ⟨sampleRequest.requestId, .contextPrepareV0, .null⟩
  readContext _ := some sampleResponse
  readBudget _ := none

@[reducible] def sampleAdapter : ModelAdapter Bytes where
  fromSlice := some
  validateWireInput _ := .ok ()
  immutableRefsFor _ := .ok []

def sampleCandidate : AdapterCandidate := ⟨sampleText "text", [104, 105], []⟩

def sampleSigned : SignedContext := ⟨sampleConfig.providerId, sampleRequest.requestId, sampleResponse⟩

def samplePosted : Posted := .ok ("", hexEncode sampleSigned.message)

lemma samplePosted_unforgeable :
    letI := sampleCrypto
    Unforgeable ⟨[sampleSigned], []⟩ sampleConfig.sharedSecret samplePosted := by
  let _ := sampleCrypto
  intro body proof message hposted hproof
  cases hposted
  rw [verifyProviderProof_ok, hexDecode_hexEncode] at hproof
  exact .inl ⟨sampleSigned, mem_singleton_self _, Option.some.inj hproof⟩

lemma callContext_samplePosted :
    letI := sampleCrypto
    letI := sampleWire
    callContext samplePosted sampleRequest sampleConfig =
      .ok ⟨sampleConfig.providerId, sampleRequest.requestId, sampleResponse⟩ := by
  let _ := sampleCrypto
  let _ := sampleWire
  have hvalid : sampleResponse.validateAgainst sampleRequest = .ok () := by decide +kernel
  have hproof : verifyProviderProof sampleConfig.sharedSecret sampleSigned.message
      (hexEncode sampleSigned.message) = .ok () :=
    verifyProviderProof_ok.mpr (hexDecode_hexEncode _)
  have hreceived : receiveEnvelope samplePosted sampleConfig .contextPrepareV0
      sampleRequest.requestId = .ok (.null, hexEncode sampleSigned.message) := by decide +kernel
  refine bind_eq_ok.mpr ⟨_, hreceived, bind_eq_ok.mpr ⟨sampleResponse, rfl, ?_⟩⟩
  exact check_bind_eq_ok.mpr ⟨hvalid, check_bind_eq_ok.mpr ⟨hproof, rfl⟩⟩

theorem contextAnswers_authentic_sample :
    letI := sampleCrypto
    letI := sampleWire
    letI := sampleAdapter
    decodeArtifacts sampleCandidate sampleResponse.artifacts = .ok ([104, 105] : Bytes) ∧
      ∃ a ∈ [sampleSigned], a.Answers sampleRequest sampleConfig ∧
        a.DecodesTo sampleCandidate ([104, 105] : Bytes) := by
  let _ := sampleCrypto
  let _ := sampleWire
  let _ := sampleAdapter
  have hdecode : decodeArtifacts sampleCandidate sampleResponse.artifacts =
      .ok ([104, 105] : Bytes) := by decide +kernel
  have hmac : ∀ (key key' m m' : Bytes), sampleCrypto.hmacSha256 key m =
      sampleCrypto.hmacSha256 key' m' → m = m' := fun _ _ _ _ h => h
  exact ⟨hdecode, (contextAnswers_authentic paddedHex_injective hmac).1 ⟨[sampleSigned], []⟩
    samplePosted sampleRequest sampleConfig _ sampleCandidate _ samplePosted_unforgeable
    callContext_samplePosted hdecode⟩

end AgentCore.Hook
