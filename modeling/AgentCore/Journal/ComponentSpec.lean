import AgentCore.Journal.ComponentControl
import AgentCore.Journal.DecisionFinality

/-! The outcomes of the calls on managed components: what each requires and what it writes. -/

namespace AgentCore.Journal

open Foundation Harness Registry List SqlTable
open Domain hiding OperationSpec RegistrySnapshot

/-! ## Events -/

variable {db db' : GovernanceDb} {kind : JournalEventKind} {subject : String}
  {i : TrustedDecisionIdentity} {intent : DeploymentIntent} {m : ServiceManifest}
  {receipt : DeploymentReceipt} {agent : AgentId}

structure Mark where
  eventId : EventId
  kind : String
  subject : Option String

def marks (t : JournalTable) : List Mark := t.rows.map fun r => ⟨r.eventId, r.kind, r.correlationId⟩

def mark (eventId : EventId) (kind : JournalEventKind) (subject : String) : Mark :=
  ⟨eventId, kind.storageName, some subject⟩

def Fresh (ids : List EventId) (t : JournalTable) : Prop :=
  ids.Nodup ∧ ∀ id ∈ ids, id ∉ (marks t).map Mark.eventId

def Reports (db db' : GovernanceDb) (events : List Mark) : Prop :=
  ∃ journal : JournalTable, db' = { db with journal } ∧
    marks journal = marks db.journal ++ events

namespace Reports

variable {events : List Mark}

lemma onlyJournal (h : Reports db db' events) : OnlyJournal db db' := by
  obtain ⟨journal, heq, -⟩ := h
  exact ⟨journal, heq⟩

lemma trans (h : Reports db db' events) (h' : Reports db' db'' events') :
    Reports db db'' (events ++ events') := by
  obtain ⟨journal, rfl, hmarks⟩ := h
  obtain ⟨journal', rfl, hmarks'⟩ := h'
  exact ⟨journal', rfl, by rw [hmarks', hmarks, append_assoc]⟩

end Reports

lemma insertIntent_eq_ok {db db' : ComponentDb} : insertIntent intent componentId db = .ok db' ↔
      (db.deploymentsInFlight componentId intent.intentId = 0 ∧ db.pendingControls componentId = 0) ∧
        ∃ intents, intents.rows = db.deploymentIntents.rows ++ [⟨intent, componentId⟩] ∧
          db' = { db with deploymentIntents := intents } := by
  unfold insertIntent
  simp only [check_bind_eq_ok, require_eq_ok]
  refine and_congr_right fun _ => ?_
  cases hinsert : db.deploymentIntents.insert ⟨intent, componentId⟩ with
  | none =>
    refine ⟨fun h => absurd h (by simp), ?_⟩
    rintro ⟨intents, hrows, -⟩
    rw [insert_eq_some.mpr hrows] at hinsert
    cases hinsert
  | some intents =>
    dsimp only
    rw [return_eq_ok]
    constructor
    · rintro rfl
      exact ⟨intents, insert_eq_some.mp hinsert, rfl⟩
    · rintro ⟨intents', hrows, rfl⟩
      rw [insert_eq_some.mpr hrows] at hinsert
      cases hinsert
      rfl

lemma validateRecordedIntent_eq_ok {db : ComponentDb} :
    validateRecordedIntent db intent componentId = .ok () ↔
      db.findIntent intent.intentId = some ⟨intent, componentId⟩ := by
  unfold validateRecordedIntent
  cases db.findIntent intent.intentId with
  | none => simp
  | some row => simp

lemma eventIds_marks (t : JournalTable) :
    (marks t).map Mark.eventId = t.rows.map JournalRow.eventId := by
  rw [marks, map_map]
  rfl

lemma validatePending_eq_ok :
    validatePending db b i now = .ok () ↔ validateDecidable b now = .ok () ∧
      db.registry.state.map RegistryState.activeSnapshotId = some i.expectedSourceSnapshotId := by
  unfold validatePending
  cases hstate : db.registry.state with
  | none => simp [check_bind_eq_ok]
  | some s =>
    simp only [check_bind_eq_ok, Option.map_some, Option.some.injEq]
    by_cases hs : s.activeSnapshotId = i.expectedSourceSnapshotId <;> simp [hs]

section

variable [Platform] {stamps : ServiceStamps} {componentId : String} {now : Timestamp}

lemma record_reports (h : db.record stamp kind p subject payload = .ok db') :
    Reports db db' [mark stamp.eventId kind subject] ∧
      stamp.eventId ∉ (marks db.journal).map Mark.eventId := by
  obtain ⟨journal, rfl, hrows, hfresh⟩ := GovernanceDb.record_eq_ok h
  refine ⟨⟨journal, rfl, ?_⟩, eventIds_marks db.journal ▸ hfresh⟩
  rw [marks, hrows, map_append]
  rfl

lemma record_bind_ok {α : Type} {f : GovernanceDb → Except String α}
    (h : ∀ db', Reports db db' [mark stamp.eventId kind subject] → ((∃ a, f db' = .ok a) ↔ Fresh ids db'.journal)) :
    (∃ a, (db.record stamp kind p subject payload >>= f) = .ok a) ↔
      Fresh (stamp.eventId :: ids) db.journal := by
  constructor
  · rintro ⟨a, hbind⟩
    obtain ⟨db', hrecord, hf⟩ := bind_eq_ok.mp hbind
    obtain ⟨hreports, hnew⟩ := record_reports hrecord
    obtain ⟨hnodup, hfresh⟩ := (h db' hreports).mp ⟨a, hf⟩
    obtain ⟨journal, rfl, hmarks⟩ := hreports
    simp only [hmarks, map_append, mem_append, not_or] at hfresh
    refine ⟨nodup_cons.mpr ⟨fun hmem => ?_, hnodup⟩, forall_mem_cons.mpr ⟨hnew, fun id hid =>
      (hfresh id hid).1⟩⟩
    exact (hfresh _ hmem).2 (mem_singleton.mpr rfl)
  · rintro ⟨hnodup, hfresh⟩
    obtain ⟨hnew, hfresh⟩ := forall_mem_cons.mp hfresh
    obtain ⟨hmem, hnodup⟩ := nodup_cons.mp hnodup
    obtain ⟨e, t, happend⟩ : ∃ e t, appendEventTx stamp kind (some p.originRunId)
        (some p.originSessionId) (some subject) payload db.journal = .ok (e, t) :=
      appendEventTx_of_fresh (eventIds_marks db.journal ▸ hnew)
    have hrecord : db.record stamp kind p subject payload = .ok { db with journal := t } :=
      bind_eq_ok.mpr ⟨(e, t), happend, rfl⟩
    obtain ⟨hreports, -⟩ := record_reports hrecord
    have hrest : Fresh ids t := by
      obtain ⟨journal, heq, hmarks⟩ := hreports
      obtain rfl : t = journal := congrArg (fun db : GovernanceDb => db.journal) heq
      refine ⟨hnodup, fun id hid hin => ?_⟩
      rw [hmarks, map_append] at hin
      rcases mem_append.mp hin with hin | hin
      · exact hfresh id hid hin
      · obtain rfl : id = stamp.eventId := mem_singleton.mp hin
        exact hmem hid
    obtain ⟨a, hf⟩ := (h _ hreports).mpr hrest
    exact ⟨a, bind_eq_ok.mpr ⟨_, hrecord, hf⟩⟩

lemma record_ok :
    (∃ db', db.record stamp kind p subject payload = .ok db') ↔ Fresh [stamp.eventId] db.journal := by
  have hbind : (∃ db', (db.record stamp kind p subject payload >>= .ok) = .ok db') ↔
      Fresh [stamp.eventId] db.journal :=
    record_bind_ok fun db' _ => ⟨fun _ => ⟨nodup_nil, nofun⟩, fun _ => ⟨db', rfl⟩⟩
  rw [← hbind]
  simp [bind_eq_ok]

def refusalMarks (stamps : DecisionStamps) (i : TrustedDecisionIdentity) : Refusal → List Mark
  | .rejected => [mark stamps.outcome .capabilityChangeRejected i.proposalId]
  | .failed _ => [mark stamps.approved .capabilityChangeApproved i.proposalId,
    mark stamps.outcome .capabilityChangeActivationFailed i.proposalId]

lemma appendRefusalEvents_reports {stamps : DecisionStamps}
    (h : appendRefusalEvents stamps p i db r = .ok db') :
    Reports db db' (refusalMarks stamps i r) := by
  cases r with
  | rejected => exact (record_reports h).1
  | failed errorCode =>
    obtain ⟨db₁, happroved, h⟩ := bind_eq_ok.mp h
    exact (record_reports happroved).1.trans (record_reports h).1

lemma appendActivationEvents_reports
    (h : appendActivationEvents stamps p i intent m receipt source target db = .ok db') :
    Reports db db' [mark stamps.approved .capabilityChangeApproved i.proposalId,
      mark stamps.receiptRecorded .deploymentReceiptRecorded receipt.receiptId,
      mark stamps.registered .componentRegistered m.componentId,
      mark stamps.changeActivated .capabilityChangeActivated i.proposalId] := by
  obtain ⟨db₁, h₁, h⟩ := bind_eq_ok.mp h
  obtain ⟨db₂, h₂, h⟩ := bind_eq_ok.mp h
  obtain ⟨db₃, h₃, h⟩ := bind_eq_ok.mp h
  exact (record_reports h₁).1.trans ((record_reports h₂).1.trans
    ((record_reports h₃).1.trans (record_reports h).1))

/-! ## Recording an intent -/

structure RecordGuards (i : TrustedDecisionIdentity) (intent : DeploymentIntent) (m : ServiceManifest)
    (agent : AgentId) (now : Timestamp) (db : ComponentDb) (b : Binding) : Prop where
  valid_manifest : m.validate = .ok ()
  valid_intent : intent.validate = .ok ()
  bound : intent.proposalId = i.proposalId ∧ intent.decisionId = i.decisionId ∧
    intent.serviceManifestDigest = i.manifestDigest ∧ intent.artifactDigest = i.artifactDigest ∧
    intent.expectedVersion = m.version ∧ intent.artifactDigest = m.artifactDigest
  binding : loadValidatedBinding db.toGovernanceDb i agent = .ok b
  pending : validatePending db.toGovernanceDb b i now = .ok ()
  operation : b.link.operation = m.componentId
  version : ∃ s source, db.components.active = .ok (s, source) ∧
    ∀ current ∈ source.lookup m.componentId, newerVersion m.version current.version

lemma recordTrustedServiceDeploymentIntent_eq_ok {stamps : IntentStamps} {db db' : ComponentDb} :
    recordTrustedServiceDeploymentIntent i intent m agent stamps db = .ok db' ↔
      ∃ b, RecordGuards i intent m agent stamps.now db b ∧ ∃ approved,
        appendApprovalEvent ⟨stamps.approved, stamps.now⟩ b.proposal.toProposalTerms i
          db.toGovernanceDb = .ok approved ∧
        ((db.findIntent intent.intentId = some ⟨intent, m.componentId⟩ ∧
            db' = { db with toGovernanceDb := approved }) ∨
          (db.findIntent intent.intentId = none ∧ ∃ db₁ recorded,
            insertIntent intent m.componentId { db with toGovernanceDb := approved } = .ok db₁ ∧
            appendIntentEvent ⟨stamps.recorded, stamps.now⟩ b.proposal.toProposalTerms i intent
              m.componentId db₁.toGovernanceDb = .ok recorded ∧
            db' = { db₁ with toGovernanceDb := recorded })) := by
  constructor
  · intro h
    obtain ⟨hmanifest, h⟩ := check_bind_eq_ok.mp h
    obtain ⟨hintent, h⟩ := check_bind_eq_ok.mp h
    obtain ⟨hbound, h⟩ := check_bind_eq_ok.mp h
    obtain ⟨b, hbinding, h⟩ := bind_eq_ok.mp h
    obtain ⟨hpending, h⟩ := check_bind_eq_ok.mp h
    obtain ⟨hoperation, h⟩ := check_bind_eq_ok.mp h
    obtain ⟨approved, happroved, h⟩ := bind_eq_ok.mp h
    obtain ⟨⟨s, source⟩, hactive, h⟩ := bind_eq_ok.mp h
    obtain ⟨hversion, h⟩ := check_bind_eq_ok.mp h
    refine ⟨b, ⟨hmanifest, hintent, require_eq_ok.mp hbound, hbinding, hpending,
      require_eq_ok.mp hoperation, s, source, hactive, require_eq_ok.mp hversion⟩, approved,
      happroved, ?_⟩
    split at h
    · rename_i row hfind
      obtain ⟨hrow, hreturn⟩ := check_bind_eq_ok.mp h
      obtain rfl := require_eq_ok.mp hrow
      exact .inl ⟨hfind, (return_eq_ok.mp hreturn).symm⟩
    · rename_i hfind
      obtain ⟨db₁, hinsert, h⟩ := bind_eq_ok.mp h
      obtain ⟨recorded, hrecorded, h⟩ := bind_eq_ok.mp h
      exact .inr ⟨hfind, db₁, recorded, hinsert, hrecorded, (return_eq_ok.mp h).symm⟩
  · rintro ⟨b, ⟨hmanifest, hintent, hbound, hbinding, hpending, hoperation, s, source, hactive,
      hversion⟩, approved, happroved, hcase⟩
    refine bind_eq_ok.mpr ⟨(), hmanifest, bind_eq_ok.mpr ⟨(), hintent, bind_eq_ok.mpr
      ⟨(), require_eq_ok.mpr hbound, bind_eq_ok.mpr ⟨b, hbinding, bind_eq_ok.mpr ⟨(), hpending,
      bind_eq_ok.mpr ⟨(), require_eq_ok.mpr hoperation, bind_eq_ok.mpr ⟨approved, happroved,
      bind_eq_ok.mpr ⟨(s, source), hactive, bind_eq_ok.mpr ⟨(), require_eq_ok.mpr hversion, ?_⟩⟩⟩⟩⟩⟩⟩⟩⟩
    rcases hcase with ⟨hfind, rfl⟩ | ⟨hfind, db₁, recorded, hinsert, hrecorded, rfl⟩
    · rw [hfind]
      exact bind_eq_ok.mpr ⟨(), require_eq_ok.mpr rfl, rfl⟩
    · rw [hfind]
      exact bind_eq_ok.mpr ⟨db₁, hinsert, bind_eq_ok.mpr ⟨recorded, hrecorded, rfl⟩⟩

/-! ## Activating a service -/

structure ServiceGuards (i : TrustedDecisionIdentity) (intent : DeploymentIntent) (m : ServiceManifest)
    (receipt : DeploymentReceipt) (agent : AgentId) (db : ComponentDb) (b : Binding) : Prop where
  valid_manifest : m.validate = .ok ()
  valid_intent : intent.validate = .ok ()
  valid_receipt : receipt.validateFor intent m.componentId = .ok ()
  bound : m.manifestId ≠ "" ∧ intent.serviceManifestDigest = i.manifestDigest ∧
    m.artifactDigest = i.artifactDigest
  binding : loadValidatedBinding db.toGovernanceDb i agent = .ok b

structure ServiceFollows (i : TrustedDecisionIdentity) (intent : DeploymentIntent)
    (m : ServiceManifest) (receipt : DeploymentReceipt) (now : Timestamp) (db : ComponentDb)
    (b : Binding) (s : ComponentRegistryState) (source : ComponentRegistrySnapshot) : Prop where
  pending : validatePending db.toGovernanceDb b i now = .ok ()
  operation : b.link.operation = m.componentId
  recorded : db.findIntent intent.intentId = some ⟨intent, m.componentId⟩
  active : db.components.active = .ok (s, source)
  succession : validateSuccession source m receipt = .ok ()

lemma activateTrustedServiceAtomic_eq_ok {db db' : ComponentDb} :
    activateTrustedServiceAtomic i intent m receipt agent stamps db = .ok (result, db') ↔
      ∃ b, ServiceGuards i intent m receipt agent db b ∧ ((b.approval.status ≠ .pending ∧ db' = db ∧
            Replays b.approval.toApprovalDecision i .approved result ∧
            result.hostDeploymentId = some receipt.deploymentId) ∨
          (b.approval.status = .pending ∧ ∃ s source,
            ServiceFollows i intent m receipt stamps.now db b s source ∧ ∃ target db₁ decided recorded,
              installComponent i m receipt s source stamps.now db = .ok (target, db₁) ∧
              result = activationResult i target receipt.deploymentId ∧
              persistTerminal i result stamps.now db₁.toGovernanceDb = .ok decided ∧
              appendActivationEvents stamps b.proposal.toProposalTerms i intent m receipt
                s.activeSnapshotId target decided = .ok recorded ∧
              db' = { db₁ with toGovernanceDb := recorded })) := by
  constructor
  · intro h
    obtain ⟨hmanifest, h⟩ := check_bind_eq_ok.mp h
    obtain ⟨hintent, h⟩ := check_bind_eq_ok.mp h
    obtain ⟨hreceipt, h⟩ := check_bind_eq_ok.mp h
    obtain ⟨hbound, h⟩ := check_bind_eq_ok.mp h
    obtain ⟨b, hbinding, h⟩ := bind_eq_ok.mp h
    refine ⟨b, ⟨hmanifest, hintent, hreceipt, require_eq_ok.mp hbound, hbinding⟩, ?_⟩
    split at h
    · rename_i hdecided
      obtain ⟨replayed, hreplay, h⟩ := bind_eq_ok.mp h
      obtain ⟨hsame, ⟨⟩⟩ := check_bind_eq_ok.mp h
      exact .inl ⟨hdecided, rfl, replayResult_eq_ok.mp hreplay, require_eq_ok.mp hsame⟩
    · rename_i hpending
      obtain ⟨hvalid, h⟩ := check_bind_eq_ok.mp h
      obtain ⟨hoperation, h⟩ := check_bind_eq_ok.mp h
      obtain ⟨hrecorded, h⟩ := check_bind_eq_ok.mp h
      obtain ⟨⟨s, source⟩, hactive, h⟩ := bind_eq_ok.mp h
      obtain ⟨hsuccession, h⟩ := check_bind_eq_ok.mp h
      obtain ⟨⟨target, db₁⟩, hinstall, h⟩ := bind_eq_ok.mp h
      obtain ⟨decided, hpersist, h⟩ := bind_eq_ok.mp h
      obtain ⟨recorded, hevents, ⟨⟩⟩ := bind_eq_ok.mp h
      exact .inr ⟨not_not.mp hpending, s, source,
        ⟨hvalid, require_eq_ok.mp hoperation, validateRecordedIntent_eq_ok.mp hrecorded, hactive,
          hsuccession⟩, target, db₁, decided, recorded, hinstall, rfl, hpersist, hevents, rfl⟩
  · rintro ⟨b, ⟨hmanifest, hintent, hreceipt, hbound, hbinding⟩, hcase⟩
    refine check_bind_eq_ok.mpr ⟨hmanifest, check_bind_eq_ok.mpr ⟨hintent, check_bind_eq_ok.mpr
      ⟨hreceipt, check_bind_eq_ok.mpr ⟨require_eq_ok.mpr hbound, bind_eq_ok.mpr ⟨b, hbinding, ?_⟩⟩⟩⟩⟩
    rcases hcase with ⟨hdecided, rfl, hreplays, hsame⟩ | ⟨hpending, s, source, hfollows, target, db₁,
      decided, recorded, hinstall, rfl, hpersist, hevents, rfl⟩
    · rw [if_pos hdecided]
      exact bind_eq_ok.mpr ⟨result, replayResult_eq_ok.mpr hreplays,
        check_bind_eq_ok.mpr ⟨require_eq_ok.mpr hsame, rfl⟩⟩
    · rw [if_neg (not_not.mpr hpending)]
      exact check_bind_eq_ok.mpr ⟨hfollows.pending, check_bind_eq_ok.mpr
        ⟨require_eq_ok.mpr hfollows.operation, check_bind_eq_ok.mpr
        ⟨validateRecordedIntent_eq_ok.mpr hfollows.recorded, bind_eq_ok.mpr ⟨(s, source),
        hfollows.active, check_bind_eq_ok.mpr ⟨hfollows.succession, bind_eq_ok.mpr ⟨(target, db₁),
        hinstall, bind_eq_ok.mpr ⟨decided, hpersist, bind_eq_ok.mpr ⟨recorded, hevents, rfl⟩⟩⟩⟩⟩⟩⟩⟩

lemma installComponent_eq_ok {db db' : ComponentDb} :
    installComponent i m receipt s source now db = .ok (target, db') ↔
      ∃ receipts components tables, receipts.rows = db.deploymentReceipts.rows ++ [receipt] ∧
        db.components.persistSnapshot
          (replaceComponent source.components m.componentId (deployedComponent i m receipt)) now =
          .ok (target, components) ∧ components.state = some s ∧
        components.setState ⟨target, s.version + 1⟩ = .ok tables ∧
        db' = { db with deploymentReceipts := receipts, components := tables } := by
  unfold installComponent
  cases hinsert : db.deploymentReceipts.insert receipt with
  | none =>
    refine ⟨nofun, ?_⟩
    rintro ⟨receipts, -, -, hrows, -⟩
    rw [insert_eq_some.mpr hrows] at hinsert
    cases hinsert
  | some receipts =>
    constructor
    · intro h
      obtain ⟨⟨target₁, components⟩, hpersist, h⟩ := bind_eq_ok.mp h
      obtain ⟨hstate, h⟩ := check_bind_eq_ok.mp h
      obtain ⟨tables, hset, ⟨⟩⟩ := bind_eq_ok.mp h
      exact ⟨receipts, components, tables, insert_eq_some.mp hinsert, hpersist,
        require_eq_ok.mp hstate, hset, rfl⟩
    · rintro ⟨receipts', components, tables, hrows, hpersist, hstate, hset, rfl⟩
      rw [insert_eq_some.mpr hrows] at hinsert
      cases hinsert
      exact bind_eq_ok.mpr ⟨(target, components), hpersist, check_bind_eq_ok.mpr
        ⟨require_eq_ok.mpr hstate, bind_eq_ok.mpr ⟨tables, hset, rfl⟩⟩⟩

end

end AgentCore.Journal
