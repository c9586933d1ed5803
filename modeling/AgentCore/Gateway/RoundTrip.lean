import AgentCore.Gateway.Ingress

/-! The message the worker reads back from the journal against the message that was
validated. -/

namespace AgentCore.Gateway

open Foundation Domain Journal List

/-! ## Arguments -/

variable {text : String} {config : KernelConfig} {envelope : IngressEnvelope} {uuid : Uuid}
  {r : JournalRow} {n : Nat}

lemma stringArg_eq_ok : stringArg value key = .ok s ↔
      ∃ raw, (value.get key).bind Json.asStr = some raw ∧ s = trim raw ∧ s ≠ "" := by
  unfold stringArg
  cases h : (value.get key).bind Json.asStr with
  | none => simp
  | some raw =>
    by_cases hempty : trim raw = ""
    · have hfilter : ((some raw).map trim).filter (fun s => s ≠ "") = none := by
        simp [Option.filter, hempty]
      rw [hfilter]
      constructor
      · intro herr
        cases herr
      · rintro ⟨_, hraw, rfl, hne⟩
        cases hraw
        exact absurd hempty hne
    · have hfilter : ((some raw).map trim).filter (fun s => s ≠ "") = some (trim raw) := by
        simp [Option.filter, hempty]
      rw [hfilter]
      constructor
      · intro hok
        cases hok
        exact ⟨raw, rfl, rfl, hempty⟩
      · rintro ⟨_, hraw, rfl, -⟩
        cases hraw
        rfl

lemma bare_of_stringArg (h : stringArg value key = .ok s) : Bare s := by
  obtain ⟨raw, -, rfl, hne⟩ := stringArg_eq_ok.mp h
  exact bare_trim hne

lemma stringArg_of_get (h : value.get key = some (.str s)) (hs : Bare s) :
    stringArg value key = .ok s :=
  stringArg_eq_ok.mpr ⟨s, by rw [h]; rfl, hs.trim_eq.symm, hs.ne⟩

lemma trim_rawText (h : stringArg value "text" = .ok text) :
    trim (rawText value) = text ∧ text ≠ "" := by
  obtain ⟨raw, hraw, rfl, hne⟩ := stringArg_eq_ok.mp h
  rw [rawText, hraw]
  exact ⟨rfl, hne⟩

lemma stringArg_normalizedText (h : stringArg value "text" = .ok text)
    (hget : stored.get "text" = some (.str (normalizedText value))) :
    stringArg stored "text" = .ok text ↔ (trimEnd (rawText value)).length ≤ 500 := by
  obtain ⟨htrim, hne⟩ := trim_rawText h
  rw [← trim_take_eq_iff (htrim ▸ hne) 500, htrim, stringArg_eq_ok]
  constructor
  · rintro ⟨raw, hraw, heq, -⟩
    rw [hget] at hraw
    cases hraw
    exact heq.symm
  · intro heq
    exact ⟨normalizedText value, by rw [hget]; rfl, heq.symm, hne⟩

lemma bare_conversationKey (chatType : String) (hchat : Bare chatId) (hsender : Bare senderOpenId) :
    Bare (conversationKey chatType chatId senderOpenId) := by
  unfold conversationKey
  split
  · exact .append ⟨by decide, by decide⟩ hsender
  · exact .append ⟨by decide, by decide⟩ hchat

/-! ## What is stored -/

lemma stringArg_texts (h : Texts fs) (key s : String)
    (hmem : (key, .str s) ∈ fs) (hs : Bare s) : stringArg (.mkObj fs) key = .ok s :=
  stringArg_of_get (h.get key s hmem) hs

lemma recoverValidatedEvent_eq (hsource : stringArg event.payload "source" = .ok source)
    (hid : stringArg event.payload "event_id" = .ok eventId)
    (hkey : event.correlationId = some dedupeKey) : recoverValidatedEvent config event =
      if source = "cli" then recoverCliEvent config eventId dedupeKey event.payload event.createdAt
      else if source = "feishu" then
        recoverFeishuEvent config eventId dedupeKey event.payload event.createdAt
      else .error ("unsupported_recovery_source:" ++ source) := by
  unfold recoverValidatedEvent recoveredDedupeKey
  rw [hsource, hid, hkey]
  rfl

lemma bare_feishuFields (h : feishuFields payload = .ok fields) :
    stringArg payload "text" = .ok fields.text ∧ Bare fields.messageId ∧ Bare fields.chatId ∧
      Bare fields.senderOpenId := by
  obtain ⟨text, htext, h⟩ := bind_eq_ok.mp h
  obtain ⟨messageId, hmessage, h⟩ := bind_eq_ok.mp h
  obtain ⟨chatId, hchat, h⟩ := bind_eq_ok.mp h
  obtain ⟨chatType, -, h⟩ := bind_eq_ok.mp h
  obtain ⟨senderOpenId, hsender, ⟨⟩⟩ := bind_eq_ok.mp h
  exact ⟨htext, bare_of_stringArg hmessage, bare_of_stringArg hchat, bare_of_stringArg hsender⟩

section Stored

variable [Platform]

lemma texts_cliStored (envelope : IngressEnvelope) (text : String) (eventId : EventId) :
    Texts (cliStored envelope text eventId) where
  keys := by
    show ["source", "external_event_id", "dedupe_key", "event_id", "text", "payload_hash"].Nodup
    decide
  texts := by simp [cliStored]

lemma texts_feishuStored (envelope : IngressEnvelope) (fields : FeishuFields)
    (eventId : EventId) : Texts (feishuStored envelope fields eventId) where
  keys := by
    show ["source", "external_event_id", "dedupe_id", "dedupe_key", "event_id", "sender_open_id",
      "chat_id", "chat_type", "conversation_key", "message_id", "message_type", "text",
      "payload_hash"].Nodup
    decide
  texts := by simp [feishuStored]

structure Stores (r : JournalRow) (event : ValidatedEvent) (payload : Json) : Prop where
  payload_eq : r.payloadJson = payload.toText
  correlation_eq : r.correlationId = some event.dedupeKey

lemma recover_cli (htext : stringArg envelope.payload "text" = .ok text)
    (hr : Stores r (cliEvent config envelope text (newEventId uuid)) (cliPayload envelope text (newEventId uuid))) :
    recoverValidatedEvent config (rowToEvent r) =
      .ok { cliEvent config envelope text (newEventId uuid) with occurredAt := r.createdAt } := by
  have hstored := texts_cliStored envelope text (newEventId uuid)
  have hpayload : (rowToEvent r).payload = .mkObj (cliStored envelope text (newEventId uuid)) :=
    hstored.payload_rowToEvent hr.payload_eq
  have hsource := stringArg_texts hstored "source" "cli" (by simp [cliStored]) ⟨by decide, by decide⟩
  have hid := stringArg_texts hstored "event_id" (newEventId uuid) (by simp [cliStored])
    (bare_newEventId uuid)
  have hread := stringArg_texts hstored "text" text (by simp [cliStored]) (bare_of_stringArg htext)
  rw [← hpayload] at hsource hid hread
  rw [recoverValidatedEvent_eq hsource hid hr.correlation_eq, if_pos rfl, recoverCliEvent, hread]
  rfl

lemma recover_feishu (hfields : feishuFields envelope.payload = .ok fields)
    (hr : Stores r (feishuEvent config envelope fields (newEventId uuid)) (feishuPayload envelope fields (newEventId uuid))) :
    recoverValidatedEvent config (rowToEvent r) =
      (stringArg (feishuPayload envelope fields (newEventId uuid)) "text").map fun text =>
        { feishuEvent config envelope fields (newEventId uuid) with
          payload := .userMessage text (some fields.messageId) (some fields.chatId)
          occurredAt := r.createdAt } := by
  obtain ⟨-, hmessage, hchat, hsender⟩ := bare_feishuFields hfields
  have hstored := texts_feishuStored envelope fields (newEventId uuid)
  have hpayload : (rowToEvent r).payload = feishuPayload envelope fields (newEventId uuid) :=
    hstored.payload_rowToEvent hr.payload_eq
  have hsource := stringArg_texts hstored "source" "feishu" (by simp [feishuStored])
    ⟨by decide, by decide⟩
  have hid := stringArg_texts hstored "event_id" (newEventId uuid) (by simp [feishuStored])
    (bare_newEventId uuid)
  have hsenderId := stringArg_texts hstored "sender_open_id" fields.senderOpenId
    (by simp [feishuStored]) hsender
  have hchatId := stringArg_texts hstored "chat_id" fields.chatId (by simp [feishuStored]) hchat
  have hkey := stringArg_texts hstored "conversation_key" _ (by simp [feishuStored])
    (bare_conversationKey fields.chatType hchat hsender)
  have hmessageId := stringArg_texts hstored "message_id" fields.messageId (by simp [feishuStored])
    hmessage
  have htype := hstored.get "chat_type" fields.chatType (by simp [feishuStored])
  rw [← feishuPayload] at hsource hid hsenderId hchatId hkey hmessageId htype
  rw [← hpayload] at hsource hid
  rw [recoverValidatedEvent_eq hsource hid hr.correlation_eq, if_neg (by decide), if_pos rfl,
    hpayload, recoverFeishuEvent, hsenderId, hchatId, hkey, hmessageId, htype]
  cases stringArg (feishuPayload envelope fields (newEventId uuid)) "text" <;> rfl

lemma checkIngress_cases (h : checkIngress config envelope = .ok admission) :
    (envelope.source = .cli ∧ checkCliIngress config envelope = .ok admission) ∨
      (envelope.source = .feishu ∧ checkFeishuIngress config envelope = .ok admission) := by
  unfold checkIngress at h
  split at h
  · cases h
  split at h
  · cases h
  split at h
  · next hsource => exact .inl ⟨hsource, h⟩
  · next hsource => exact .inr ⟨hsource, h⟩

lemma eventId_of_stores (h : checkIngress config envelope = .ok admission)
    (hr : Stores r (admission.event eventId) (admission.payload eventId)) :
    (admission.event eventId).eventId = eventId ∧ ingressEventId (rowToEvent r) = some eventId := by
  rcases checkIngress_cases h with ⟨-, h⟩ | ⟨-, h⟩
  · obtain ⟨text, -, ⟨⟩⟩ := bind_eq_ok.mp h
    have hstored := texts_cliStored envelope text eventId
    refine ⟨rfl, ?_⟩
    rw [ingressEventId, hstored.payload_rowToEvent hr.payload_eq,
      hstored.get "event_id" eventId (by simp [cliStored])]
    rfl
  · obtain ⟨fields, -, h⟩ := bind_eq_ok.mp h
    obtain ⟨-, -, ⟨⟩⟩ := bind_eq_ok.mp h
    have hstored := texts_feishuStored envelope fields eventId
    refine ⟨rfl, ?_⟩
    rw [ingressEventId, hstored.payload_rowToEvent hr.payload_eq,
      hstored.get "event_id" eventId (by simp [feishuStored])]
    rfl

/-! ## The round trip -/

lemma validateIngress_eq_ok
    (h : validateIngress config envelope uuid now stamps db = (.ok event, db')) :
    ∃ admission, checkIngress config envelope = .ok admission ∧
      event = admission.event (newEventId uuid) ∧
      ∃ r tail, db'.journal.rows = db.journal.rows ++ r :: tail ∧
        r.kind = JournalEventKind.ingressAccepted.storageName ∧ OnlyQueued tail ∧
        Stores r event (admission.payload (newEventId uuid)) := by
  unfold validateIngress at h
  split at h
  · exact absurd (Prod.mk.inj h).1 (by simp)
  · next admission hingress =>
    split at h
    · exact absurd (Prod.mk.inj h).1 (by simp)
    · next db1 hreserve =>
      obtain ⟨-, rows, rfl, -⟩ := reserveIngress_fresh hreserve
      unfold acceptAdmission at h
      split at h
      · next jobId db2 haccept =>
        obtain ⟨hevent, rfl⟩ := Prod.mk.inj h
        cases hevent
        obtain ⟨journal, tail, rfl, hrows, htail⟩ := acceptIngressWithWorkerJob_eq_ok haccept
        exact ⟨admission, hingress, rfl, _, tail, hrows, rfl, htail, ⟨rfl, rfl⟩⟩
      · exact absurd (Prod.mk.inj h).1 (by simp)

def KeepsText (envelope : IngressEnvelope) : Prop :=
  envelope.source = .feishu → (trimEnd (rawText envelope.payload)).length ≤ 500

def ReadsBack (config : KernelConfig) (r : JournalRow) (event : ValidatedEvent) : Prop :=
  ∃ recovered, recoverValidatedEvent config (rowToEvent r) = .ok recovered ∧
    recovered.SameMessage event

lemma readsBack_cli (h : checkCliIngress config envelope = .ok admission)
    (hr : Stores r (admission.event (newEventId uuid)) (admission.payload (newEventId uuid))) :
    ReadsBack config r (admission.event (newEventId uuid)) := by
  obtain ⟨text, htext, ⟨⟩⟩ := bind_eq_ok.mp h
  exact ⟨_, recover_cli htext hr, rfl⟩

lemma readsBack_feishu (h : checkFeishuIngress config envelope = .ok admission)
    (hr : Stores r (admission.event (newEventId uuid)) (admission.payload (newEventId uuid))) :
    ReadsBack config r (admission.event (newEventId uuid)) ↔
      (trimEnd (rawText envelope.payload)).length ≤ 500 := by
  obtain ⟨fields, hfields, h⟩ := bind_eq_ok.mp h
  obtain ⟨-, -, ⟨⟩⟩ := bind_eq_ok.mp h
  obtain ⟨htext, -, -, -⟩ := bare_feishuFields hfields
  have hget := (texts_feishuStored envelope fields (newEventId uuid)).get "text"
    (normalizedText envelope.payload) (by simp [feishuStored])
  rw [← stringArg_normalizedText htext hget, ReadsBack, recover_feishu hfields hr]
  constructor
  · rintro ⟨recovered, hrecovered, hsame⟩
    cases hstored : stringArg (feishuPayload envelope fields (newEventId uuid)) "text" with
    | error e =>
      rw [hstored] at hrecovered
      cases hrecovered
    | ok text =>
      rw [hstored] at hrecovered
      cases hrecovered
      have hpayload := congrArg ValidatedEvent.payload hsame
      obtain ⟨rfl, -, -⟩ := RuntimeEventPayload.userMessage.inj hpayload
      exact hstored
  · intro hstored
    rw [feishuPayload, hstored]
    exact ⟨_, rfl, rfl⟩

lemma readsBack_iff (h : checkIngress config envelope = .ok admission)
    (hr : Stores r (admission.event (newEventId uuid)) (admission.payload (newEventId uuid))) :
    ReadsBack config r (admission.event (newEventId uuid)) ↔ KeepsText envelope := by
  rcases checkIngress_cases h with ⟨hsource, h⟩ | ⟨hsource, h⟩
  · refine iff_of_true (readsBack_cli h hr) fun hfeishu => ?_
    rw [hsource] at hfeishu
    cases hfeishu
  · rw [readsBack_feishu h hr, KeepsText]
    exact ⟨fun hlen _ => hlen, fun hkeeps => hkeeps hsource⟩

lemma validateIngress_of_fresh (uuid : Uuid) (now : Nat → Timestamp) (stamps : Nat → Stamp)
    (db : Db) (hingress : checkIngress config envelope = .ok admission)
    (habsent : db.ingressDedup.find? (admission.source, admission.dedupeId) = none)
    (h0 : (stamps 0).eventId ∉ db.journal.rows.map JournalRow.eventId)
    (h1 : (stamps 1).eventId ∉ db.journal.rows.map JournalRow.eventId)
    (hne : (stamps 1).eventId ≠ (stamps 0).eventId) :
    ∃ db', validateIngress config envelope uuid now stamps db =
      (.ok (admission.event (newEventId uuid)), db') := by
  cases hreserve : reserveIngress admission.source admission.dedupeId (newEventId uuid) (now 0) db
    with
  | mk fresh db1 =>
    cases fresh with
    | false => exact absurd habsent (reserveIngress_refused hreserve).2
    | true =>
      obtain ⟨-, rows, rfl, -⟩ := reserveIngress_fresh hreserve
      obtain ⟨jobId, db2, haccept⟩ := acceptIngressWithWorkerJob_of_fresh
        (admission.event (newEventId uuid)) (admission.payload (newEventId uuid)) (now 1)
        { db with ingressDedup := rows } h0 h1 hne
      refine ⟨db2, ?_⟩
      unfold validateIngress acceptAdmission
      simp only [hingress, hreserve, haccept]

/-- A validated message reads back from its journal row as it was validated exactly when
the cut of the stored text only took blanks. -/
theorem ingress_round_trip_iff {config : KernelConfig} {envelope : IngressEnvelope} {uuid : Uuid}
    {now : Nat → Timestamp} {stamps : Nat → Stamp} {db db' : Db} {event : ValidatedEvent}
    (h : validateIngress config envelope uuid now stamps db = (.ok event, db')) :
    ∃ r tail, db'.journal.rows = db.journal.rows ++ r :: tail ∧
      (rowToEvent r).kind = .ingressAccepted ∧
      (∀ r' ∈ tail, (rowToEvent r').kind ≠ .ingressAccepted) ∧
      (ReadsBack config r event ↔ KeepsText envelope) := by
  obtain ⟨admission, hingress, rfl, r, tail, hrows, hkind, htail, hstores⟩ := validateIngress_eq_ok h
  refine ⟨r, tail, hrows, ?_, ?_, readsBack_iff hingress hstores⟩
  · exact kind_rowToEvent hkind
  · intro r' hr'
    rw [kind_rowToEvent (htail r' hr')]
    decide

end Stored

/-! ## A text of 501 characters -/

def sampleUuid : Uuid where
  text := "0123456789abcdef0123456789abcdef"
  hex c hc := of_decide_eq_true <| all_eq_true
    (p := fun c => decide (c ∈ "0123456789abcdef".toList)).mp (by decide) c hc
  length_eq := by decide

def sampleStamps (n : Nat) : Stamp := ⟨"event_" ++ toString n, n⟩

def letters (n : Nat) : String := String.ofList (replicate n 'a')

lemma bare_letters (hn : 0 < n) : Bare (letters n) := by
  have hblank : ∀ c ∈ (letters n).toList, isWhitespace c = false := by
    intro c hc
    rw [letters, String.toList_ofList] at hc
    rw [eq_of_mem_replicate hc]
    decide
  refine bare_of_trimmed ⟨fun c hc => ?_, fun c hc => ?_⟩ ?_
  · exact hblank c (mem_of_mem_head? hc)
  · exact hblank c (mem_of_getLast? hc)
  · intro h
    have hlen := congrArg String.length h
    simp [letters] at hlen
    omega

lemma trimEnd_letters (n : Nat) : (trimEnd (letters n)).length = n := by
  rw [trimEnd, letters, String.toList_ofList, rdropWhile_of_last, String.length_ofList,
    length_replicate]
  intro c hc
  rw [eq_of_mem_replicate (mem_of_getLast? hc)]
  decide

def messageFields (n : Nat) : FeishuFields := ⟨letters n, "om_1", "oc_1", "p2p", "ou_1"⟩

def feishuMessage (n : Nat) : IngressEnvelope where
  protocolVersion := "v1"
  source := .feishu
  externalEventId := "evt"
  receivedAt := 0
  payload := .mkObj [("text", .str (letters n)), ("message_id", .str "om_1"),
    ("chat_id", .str "oc_1"), ("chat_type", .str "p2p"), ("sender_open_id", .str "ou_1")]
  authContext := ⟨true⟩

lemma feishuFields_feishuMessage (hn : 0 < n) :
    feishuFields (feishuMessage n).payload = .ok (messageFields n) := by
  have htexts : Texts [("text", .str (letters n)), ("message_id", .str "om_1"),
      ("chat_id", .str "oc_1"), ("chat_type", .str "p2p"), ("sender_open_id", .str "ou_1")] :=
    ⟨by show ["text", "message_id", "chat_id", "chat_type", "sender_open_id"].Nodup; decide,
      by simp⟩
  unfold feishuFields feishuMessage
  rw [stringArg_texts htexts "text" (letters n) (by simp) (bare_letters hn),
    stringArg_texts htexts "message_id" "om_1" (by simp) ⟨by decide, by decide⟩,
    stringArg_texts htexts "chat_id" "oc_1" (by simp) ⟨by decide, by decide⟩,
    stringArg_texts htexts "chat_type" "p2p" (by simp) ⟨by decide, by decide⟩,
    stringArg_texts htexts "sender_open_id" "ou_1" (by simp) ⟨by decide, by decide⟩]
  rfl

lemma keepsText_feishuMessage (n : Nat) : KeepsText (feishuMessage n) ↔ n ≤ 500 := by
  have hraw : rawText (feishuMessage n).payload = letters n := by
    rw [rawText, feishuMessage, Json.get_mkObj]
    rfl
  rw [KeepsText, hraw, trimEnd_letters]
  exact ⟨fun h => h rfl, fun h _ => h⟩

lemma checkIngress_feishuMessage [Platform] (hn : 0 < n) :
    ∃ admission, checkIngress {} (feishuMessage n) = .ok admission := by
  have hcheck : checkFeishuPolicy {} (feishuMessage n).payload (messageFields n) = .ok () := by
    have hne : trim (messageFields n).text ≠ "" :=
      (bare_letters hn).trim_eq ▸ (bare_letters hn).ne
    have hsender : senderType (feishuMessage n).payload = "user" := by
      rw [senderType, feishuMessage, Json.get_mkObj]
      rfl
    have htype : messageType (feishuMessage n).payload = "text" := by
      rw [messageType, feishuMessage, Json.get_mkObj]
      rfl
    unfold checkFeishuPolicy
    rw [hsender, htype, if_neg (by decide), if_neg (by decide), if_neg hne]
    rfl
  have hingress : checkIngress {} (feishuMessage n) = checkFeishuIngress {} (feishuMessage n) := rfl
  rw [hingress, checkFeishuIngress, feishuFields_feishuMessage hn]
  simp only [bind, Except.bind, hcheck]
  exact ⟨_, rfl⟩

/-- The worker reads 500 letters of a private message of 501. -/
theorem ingress_cut_at_501 :
    letI := referencePlatform
    ∃ event db', validateIngress {} (feishuMessage 501) sampleUuid (fun _ => 0) sampleStamps {} =
        (.ok event, db') ∧
      ∃ r ∈ db'.journal.rows, (rowToEvent r).kind = .ingressAccepted ∧ ¬ReadsBack {} r event := by
  let _ := referencePlatform
  obtain ⟨admission, hingress⟩ := checkIngress_feishuMessage (n := 501) (by decide)
  obtain ⟨db', hvalidate⟩ := validateIngress_of_fresh sampleUuid (fun _ => 0) sampleStamps {}
    hingress rfl (by decide) (by decide) (by decide)
  obtain ⟨admission', hingress', -, r, tail, hrows, hkind, -, hstores⟩ :=
    validateIngress_eq_ok hvalidate
  cases hingress.symm.trans hingress'
  refine ⟨_, db', hvalidate, r, by simp [hrows], kind_rowToEvent hkind, ?_⟩
  rw [readsBack_iff hingress hstores, keepsText_feishuMessage]
  decide

theorem ingress_round_trip_short :
    letI := referencePlatform
    ∃ event db', validateIngress {} (feishuMessage 3) sampleUuid (fun _ => 0) sampleStamps {} =
        (.ok event, db') ∧
      ∃ r tail, db'.journal.rows = (default : Db).journal.rows ++ r :: tail ∧
        (rowToEvent r).kind = .ingressAccepted ∧
        (∀ r' ∈ tail, (rowToEvent r').kind ≠ .ingressAccepted) ∧
        (ReadsBack {} r event ↔ KeepsText (feishuMessage 3)) := by
  let _ := referencePlatform
  obtain ⟨admission, hingress⟩ := checkIngress_feishuMessage (n := 3) (by decide)
  obtain ⟨db', hvalidate⟩ := validateIngress_of_fresh sampleUuid (fun _ => 0) sampleStamps {}
    hingress rfl (by decide) (by decide) (by decide)
  exact ⟨_, db', hvalidate, ingress_round_trip_iff hvalidate⟩

end AgentCore.Gateway
