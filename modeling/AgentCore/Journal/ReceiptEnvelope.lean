import AgentCore.Foundation.Text
import AgentCore.Journal.TrustedBinding

/-! The envelope of an external receipt and what its digest binds. -/

namespace AgentCore.Journal

open Foundation Domain String

structure ExternalReceiptEnvelope where
  (schemaVersion invocationIntentId issuer subjectDigest : String)
  outcome : ExternalOutcome
  evidenceDigest : String
  opaquePayloadDigest : Option String
  receiptDigest : String

namespace ExternalReceiptEnvelope

def validateStructure (e : ExternalReceiptEnvelope) : Except String Unit :=
  if e.schemaVersion ≠ SCHEMA_VERSION then .error "unknown schema_version"
  else if e.invocationIntentId = "" then .error "receipt missing invocation_intent_id"
  else if e.issuer = "" then .error "receipt missing issuer"
  else if ¬ "sha256:".toList <+: e.subjectDigest.toList then
    .error "receipt missing or invalid subject_digest"
  else if ¬ "sha256:".toList <+: e.evidenceDigest.toList then
    .error "receipt missing or invalid evidence_digest"
  else if e.receiptDigest = "" then .error "receipt missing receipt_digest"
  else .ok ()

/-- The digested fields are the same; the schema version is fixed by the structure. -/
def SameFields (e e' : ExternalReceiptEnvelope) : Prop :=
  e.invocationIntentId = e'.invocationIntentId ∧ e.issuer = e'.issuer ∧
    e.subjectDigest = e'.subjectDigest ∧ e.outcome = e'.outcome ∧
    e.evidenceDigest = e'.evidenceDigest ∧ e.opaquePayloadDigest = e'.opaquePayloadDigest

def newlines (field : String) : Nat := field.toList.count '\n'

/-- Each free text takes as many lines in both, and both or none have a payload digest. -/
def SameLines (e e' : ExternalReceiptEnvelope) : Prop :=
  newlines e.invocationIntentId = newlines e'.invocationIntentId ∧
    newlines e.issuer = newlines e'.issuer ∧
    newlines e.subjectDigest = newlines e'.subjectDigest ∧
    newlines e.evidenceDigest = newlines e'.evidenceDigest ∧
    e.opaquePayloadDigest.isSome = e'.opaquePayloadDigest.isSome

lemma validateStructure_schemaVersion (h : validateStructure e = .ok ()) :
    e.schemaVersion = SCHEMA_VERSION := by
  by_contra hne
  rw [validateStructure, if_pos hne] at h
  cases h

def lines (e : ExternalReceiptEnvelope) : List Char :=
  e.schemaVersion.toList ++ '\n' :: (e.invocationIntentId.toList ++ '\n' :: (e.issuer.toList ++
    '\n' :: (e.subjectDigest.toList ++ '\n' :: ((outcomeStr e.outcome).toList ++ '\n' ::
      (e.evidenceDigest.toList ++ '\n' :: ((e.opaquePayloadDigest.getD "").toList ++ ['\n']))))))

lemma outcomeStr_newlines (o o' : ExternalOutcome) :
    (outcomeStr o).toList.count '\n' = (outcomeStr o').toList.count '\n' := by
  cases o <;> cases o' <;> rfl

lemma outcomeStr_injective : Function.Injective outcomeStr := by
  intro o o' h
  cases o <;> cases o' <;> first | rfl | exact absurd h (by decide)

section

variable [Platform]

def verifyReceiptDigest (e : ExternalReceiptEnvelope) : Except String Unit :=
  if e.receiptDigest = computeExternalReceiptDigest e.schemaVersion e.invocationIntentId e.issuer
      e.subjectDigest e.outcome e.evidenceDigest e.opaquePayloadDigest then .ok ()
  else .error "receipt_digest mismatch"

def Verified (e : ExternalReceiptEnvelope) : Prop :=
  e.validateStructure = .ok () ∧ e.verifyReceiptDigest = .ok ()

lemma lines_eq (hsha : Function.Injective Platform.sha256Hex) (h : verifyReceiptDigest e = .ok ())
    (h' : verifyReceiptDigest e' = .ok ()) (hsame : e.receiptDigest = e'.receiptDigest) :
    lines e = lines e' := by
  have hdigest : ∀ {e}, verifyReceiptDigest e = .ok () →
      e.receiptDigest = "sha256:" ++ Platform.sha256Hex (ofList (lines e)) := by
    intro e h
    rw [verifyReceiptDigest] at h
    split_ifs at h with heq
    rw [heq, computeExternalReceiptDigest, digestFields]
    congr 2
    rw [← toList_inj]
    simp [join, lines]
  rw [hdigest h, hdigest h'] at hsame
  exact ofList_injective (hsha (append_right_inj _ |>.mp hsame))

/-- Of two verified envelopes with one digest, the digested fields are the same exactly when the
lines are cut alike. -/
theorem receipt_digest_binds_iff (hsha : Function.Injective Platform.sha256Hex)
    (e e' : ExternalReceiptEnvelope) (h : e.Verified) (h' : e'.Verified)
    (hsame : e.receiptDigest = e'.receiptDigest) : SameFields e e' ↔ SameLines e e' := by
  constructor
  · rintro ⟨hintent, hissuer, hsubject, -, hevidence, hpayload⟩
    rw [SameLines, hintent, hissuer, hsubject, hevidence, hpayload]
    exact ⟨rfl, rfl, rfl, rfl, rfl⟩
  · rintro ⟨hintent, hissuer, hsubject, hevidence, hpayload⟩
    have hlines := lines_eq hsha h.2 h'.2 hsame
    rw [lines, lines, validateStructure_schemaVersion h.1, validateStructure_schemaVersion h'.1]
      at hlines
    obtain ⟨-, hlines⟩ := list_field_inj rfl hlines
    obtain ⟨hintent, hlines⟩ := list_field_inj hintent hlines
    obtain ⟨hissuer, hlines⟩ := list_field_inj hissuer hlines
    obtain ⟨hsubject, hlines⟩ := list_field_inj hsubject hlines
    obtain ⟨houtcome, hlines⟩ := list_field_inj (outcomeStr_newlines _ _) hlines
    obtain ⟨hevidence, hlines⟩ := list_field_inj hevidence hlines
    have htext := toList_inj.mp (List.append_cancel_right hlines)
    refine ⟨toList_inj.mp hintent, toList_inj.mp hissuer, toList_inj.mp hsubject,
      outcomeStr_injective (toList_inj.mp houtcome), toList_inj.mp hevidence, ?_⟩
    revert hpayload htext
    cases e.opaquePayloadDigest <;> cases e'.opaquePayloadDigest <;> simp

def sampleEnvelope (payload : Option String) : ExternalReceiptEnvelope where
  schemaVersion := SCHEMA_VERSION
  invocationIntentId := "invocation"
  issuer := "harness"
  subjectDigest := "sha256:a"
  outcome := .passed
  evidenceDigest := "sha256:b"
  opaquePayloadDigest := payload
  receiptDigest := computeExternalReceiptDigest SCHEMA_VERSION "invocation" "harness" "sha256:a"
    .passed "sha256:b" payload

lemma sampleEnvelope_verified (payload : Option String) : (sampleEnvelope payload).Verified := by
  have hdigest : (sampleEnvelope payload).receiptDigest ≠ "" := by
    intro hempty
    have hlist := congrArg toList hempty
    simp [sampleEnvelope, computeExternalReceiptDigest, digestFields] at hlist
  refine ⟨?_, if_pos rfl⟩
  simp only [validateStructure, if_neg hdigest]
  simp [sampleEnvelope]

end

/-- An empty payload digest and none have one receipt digest. -/
theorem receipt_digest_presence : letI := referencePlatform
    Function.Injective Platform.sha256Hex ∧ (sampleEnvelope none).Verified ∧
      (sampleEnvelope (some "")).Verified ∧
      (sampleEnvelope none).receiptDigest = (sampleEnvelope (some "")).receiptDigest ∧
      ¬ SameFields (sampleEnvelope none) (sampleEnvelope (some "")) := by
  let _ := referencePlatform
  exact ⟨hexCode_hexDigest.injective, sampleEnvelope_verified none, sampleEnvelope_verified _, rfl,
    fun h => nomatch h.2.2.2.2.2⟩

theorem receipt_digest_binds_iff_sample : letI := referencePlatform
    ¬ SameLines (sampleEnvelope none) (sampleEnvelope (some "")) := by
  let _ := referencePlatform
  have hiff := receipt_digest_binds_iff hexCode_hexDigest.injective (sampleEnvelope none)
    (sampleEnvelope (some "")) (sampleEnvelope_verified none) (sampleEnvelope_verified _) rfl
  exact fun hlines => nomatch (hiff.mpr hlines).2.2.2.2.2

end ExternalReceiptEnvelope

end AgentCore.Journal
