import AgentCore.Runtime.Projection
import AgentCore.Server.Terminal

/-! The default runtime's workers, the dispatchers and the recovery at a restart over one
database: what each store call of a worker does, and what holds of one run, its reply's row
and the reply's facts. -/

namespace AgentCore.Server

open Foundation Domain Journal Gateway AgentCore.Runtime Option

variable {stamp : Stamp} {kind : JournalEventKind} {correlationId : Option String} {d : Delivery}
  {st : OutboxDispatchStatus} {db db' : Db} {c : RunContext} {invocationId : InvocationId}

def replyId (runId : RunId) : InvocationId := "reply:" ++ runId

lemma replyId_injective : Function.Injective replyId := by
  intro a b h
  have hlist := congrArg String.toList h
  rw [replyId, replyId, String.toList_append, String.toList_append] at hlist
  exact String.toList_injective (List.append_cancel_left hlist)

/-! ## The site -/

def LoopEvent.Inline : LoopEvent → Prop
  | record kind correlationId _ => isFactKind kind.1.storageName = true →
      kind.1 ≠ .dispatchStarted ∧ ∀ runId, correlationId ≠ some (replyId runId)
  | _ => True

def internalLabel : Label → Bool
  | .queue .. => false
  | .foreignEvent .. => false
  | .foreignRuns .. => false
  | .crash => false
  | _ => true

structure Site extends World where
  deliveries : List Delivery

def Site.init : Site := ⟨.init, []⟩

inductive SiteAct
  | deliver (config : { config : KernelConfig // config.requireWriteApproval = false })
      (event : ValidatedEvent)
  | advance (i : Nat) (x : { x : DeliveryInput // x.event.Inline })
  | kernel (l : { l : Label // internalLabel l = true })
  | crash

namespace Site

variable [Platform]

/-- Workers start after the recovery, as the dispatchers do; a crash takes both. -/
def step (s : Site) : SiteAct → Site
  | .deliver config event =>
    if s.phase = .serving then
      { s with deliveries := s.deliveries ++ [.opening ⟨.v0, config, event⟩] }
    else s
  | .advance i x =>
    match s.deliveries[i]? with
    | none => s
    | some d =>
      { s with
        db := (d.next x s.db).2
        deliveries := s.deliveries.set i (d.next x s.db).1 }
  | .kernel l => { s with toWorld := s.toWorld.step l }
  | .crash => ⟨s.toWorld.step .crash, []⟩

end Site

/-! ## What a delivery does -/

structure OwnReply (c : RunContext) (intent : InvocationIntent) : Prop where
  invocationId : intent.invocationId = replyId c.run.id
  runId : intent.runId = c.run.id

lemma ownReply_intent (c : RunContext) (text : String) : OwnReply c (c.intent text) := by
  unfold RunContext.intent replyIntent
  split
  split
  · exact ⟨rfl, rfl⟩
  · exact ⟨rfl, rfl⟩

def Plain (runtime : RuntimeKind) (config : KernelConfig) : Prop :=
  runtime = .v0 ∧ config.requireWriteApproval = false

inductive Working (c : RunContext) : Delivery → Prop
  | starting : Working c (.starting c)
  | thinking (calls : Nat) : Working c (.thinking c calls)
  | invoking (calls : Nat) : Working c (.invoking c calls)
  | proposing {intent : InvocationIntent} (h : OwnReply c intent) :
      Working c (.replying c (.proposing intent false))
  | approving {approved : ApprovedInvocation} (h : OwnReply c approved.intent) :
      Working c (.replying c (.approving approved false))
  | queueing {approved : ApprovedInvocation} (h : OwnReply c approved.intent) :
      Working c (.replying c (.queueing approved false))

inductive Position : Delivery → Prop
  | opening {c : DeliveryContext} (hc : Plain c.runtime c.config) : Position (.opening c)
  | creatingSession {c : DeliveryContext} {session : Session} (hc : Plain c.runtime c.config) :
      Position (.creatingSession c session)
  | readying {c : DeliveryContext} {session : Session} (hc : Plain c.runtime c.config) :
      Position (.readying c session)
  | pinning {c : DeliveryContext} {session : Session} (hc : Plain c.runtime c.config) :
      Position (.pinning c session)
  | inserting {c : RunContext} (hc : Plain c.runtime c.config) (hrun : c.run.status = .running) :
      Position (.inserting c)
  | working {c : RunContext} {d : Delivery} (hc : Plain c.runtime c.config) (hd : Working c d) :
      Position d
  | dispatching {c : RunContext} (hc : Plain c.runtime c.config) :
      Position (.replying c .dispatching)
  | completing {c : RunContext} (hc : Plain c.runtime c.config) : Position (.completing c)
  | failing {c : RunContext} {category reason : String} (hc : Plain c.runtime c.config) :
      Position (.failing c category reason)
  | reporting {c : RunContext} {category reason : String} (hc : Plain c.runtime c.config) :
      Position (.reporting c category reason)
  | ended (ok : Bool) : Position (.ended ok)

def InlineRow (e : JournalRow) : Prop :=
  isFactKind e.kind = true →
    e.kind ≠ "DispatchStarted" ∧ ∀ runId, e.correlationId ≠ some (replyId runId)

structure InlineOnly (db db' : Db) : Prop where
  outbox : db'.outbox = db.outbox
  runs : db'.runs = db.runs
  journal : ∃ es, db'.journal.rows = db.journal.rows ++ es ∧ ∀ e ∈ es, InlineRow e

lemma InlineOnly.refl (db : Db) : InlineOnly db db := ⟨rfl, rfl, [], by simp, by simp⟩

inductive Advance [Platform] (x : DeliveryInput) (db : Db) : Delivery → Delivery → Db → Prop
  | outside {d d' : Delivery} {db' : Db} (hd : d.context = none) (hd' : d'.context = none)
      (h : InlineOnly db db') : Advance x db d d' db'
  | created {c : RunContext} {db' : Db} (hrun : c.run.status = .running)
      (h : insertRun c.run db = .ok db') : Advance x db (.inserting c) (.starting c) db'
  | worked {c : RunContext} {d d' : Delivery} {db' : Db} (hd : Working c d) (hd' : Working c d')
      (h : InlineOnly db db') : Advance x db d d' db'
  | gaveUp {c : RunContext} {d : Delivery} {db' : Db} {category reason : String}
      (hd : Working c d) (h : InlineOnly db db') : Advance x db d (.failing c category reason) db'
  | dropped {c : RunContext} {d d' : Delivery} {db' : Db} (hd : Working c d)
      (hd' : d'.context = none) (h : InlineOnly db db') : Advance x db d d' db'
  | queued {c : RunContext} {approved : ApprovedInvocation} {dispatchId : String} {db' : Db}
      (hown : OwnReply c approved.intent)
      (h : queueOutboxDispatch approved (some c.session.id) x.now x.stamp db =
        .ok (dispatchId, db')) :
      Advance x db (.replying c (.queueing approved false)) (.replying c .dispatching) db'
  | waited {c : RunContext} : Advance x db (.replying c .dispatching) (.completing c)
      (setRunStatus c.run.id .waitingDispatch x.now db)
  | completed {c : RunContext} : Advance x db (.completing c) (.ended true)
      (setRunStatus c.run.id .completed x.now db)
  | failed {c : RunContext} {category reason : String} :
      Advance x db (.failing c category reason) (.reporting c category reason)
        (setRunStatus c.run.id .failed x.now db)
  | reported {c : RunContext} {category reason : String} {db' : Db} (h : InlineOnly db db') :
      Advance x db (.reporting c category reason) (.ended false) db'

section Deliveries

variable [Platform] {x : DeliveryInput} {runId : Option RunId}

lemma inlineOnly_append (h : db.append stamp kind runId sessionId correlationId payload = .ok db')
    (hinline : isFactKind kind.storageName = true → kind ≠ .dispatchStarted ∧ ∀ runId, correlationId ≠ some (replyId runId)) :
    InlineOnly db db' := by
  obtain ⟨journal, rfl, hrows, -⟩ := Db.append_eq_ok h
  refine ⟨rfl, rfl, _, hrows, fun e he hkind => ?_⟩
  obtain rfl := List.mem_singleton.mp he
  obtain ⟨hne, hcorrelation⟩ := hinline hkind
  exact ⟨fun heq => hne (storageName_injective heq), hcorrelation⟩

lemma inlineOnly_append_other
    (h : db.append stamp kind runId sessionId correlationId payload = .ok db')
    (hkind : isFactKind kind.storageName = false) : InlineOnly db db' :=
  inlineOnly_append h fun hfact => absurd hfact (by rw [hkind]; decide)

lemma Working.advance (hc : Plain c.runtime c.config) (hd : Working c d) (hx : x.event.Inline)
    (db : Db) : Advance x db d (d.next x db).1 (d.next x db).2 ∧ Position (d.next x db).1 := by
  cases hd with
  | starting =>
    simp only [Delivery.next, Delivery.start]
    split
    · next db' happ =>
      rw [hc.1]
      exact ⟨.worked .starting (.thinking 0) (inlineOnly_append_other happ (by decide)),
        .working hc (.thinking 0)⟩
    · exact ⟨.dropped .starting rfl (.refl db), .ended false⟩
  | thinking calls =>
    simp only [Delivery.next, Delivery.think]
    split
    · next text _ =>
      exact ⟨.worked (.thinking calls) (.proposing (ownReply_intent c _)) (.refl db),
        .working hc (.proposing (ownReply_intent c _))⟩
    · split
      · exact ⟨.gaveUp (.thinking calls) (.refl db), .failing hc⟩
      · exact ⟨.worked (.thinking calls) (.invoking calls) (.refl db),
          .working hc (.invoking calls)⟩
    · exact ⟨.gaveUp (.thinking calls) (.refl db), .failing hc⟩
    · exact ⟨.worked (.thinking calls) (.thinking calls) (.refl db), .working hc (.thinking calls)⟩
  | invoking calls =>
    simp only [Delivery.next, Delivery.invoke]
    split
    · next kind correlationId payload hevent =>
      rw [hevent] at hx
      split
      · next db' happ =>
        exact ⟨.worked (.invoking calls) (.invoking calls) (inlineOnly_append happ hx),
          .working hc (.invoking calls)⟩
      · exact ⟨.gaveUp (.invoking calls) (.refl db), .failing hc⟩
    · exact ⟨.worked (.invoking calls) (.thinking (calls + 1)) (.refl db),
        .working hc (.thinking (calls + 1))⟩
    · exact ⟨.gaveUp (.invoking calls) (.refl db), .failing hc⟩
    · exact ⟨.worked (.invoking calls) (.invoking calls) (.refl db), .working hc (.invoking calls)⟩
  | @proposing intent hown =>
    simp only [Delivery.next, Delivery.reply, Reply.act, propose]
    split
    · simp only [Delivery.afterReply, hc.1]
      exact ⟨.gaveUp (.proposing hown) (.refl db), .failing hc⟩
    · next db' happ =>
      have hinline : InlineOnly db db' := inlineOnly_append_other happ (by decide)
      split
      · next approved happroved =>
        obtain rfl := approveInvocation_eq_ok happroved
        exact ⟨.worked (.proposing hown) (.approving hown) hinline, .working hc (.approving hown)⟩
      · simp only [Delivery.afterReply, hc.1]
        exact ⟨.gaveUp (.proposing hown) hinline, .failing hc⟩
  | @approving approved hown =>
    simp only [Delivery.next, Delivery.reply, Reply.act, recordApproved]
    split
    · next db' happ =>
      have henqueue : enqueueOrPause c approved false = .queueing approved false := by
        simp [enqueueOrPause, hc.2]
      simp only [Delivery.afterReply, henqueue]
      exact ⟨.worked (.approving hown) (.queueing hown) (inlineOnly_append_other happ (by decide)),
        .working hc (.queueing hown)⟩
    · simp only [Delivery.afterReply, hc.1]
      exact ⟨.gaveUp (.approving hown) (.refl db), .failing hc⟩
  | @queueing approved hown =>
    simp only [Delivery.next, Delivery.reply, Reply.act, queueReply]
    split
    · next hqueue => exact ⟨.queued hown hqueue, .dispatching hc⟩
    · simp only [Delivery.afterReply, hc.1]
      exact ⟨.gaveUp (.queueing hown) (.refl db), .failing hc⟩

lemma Position.advance (hd : Position d) (hx : x.event.Inline) (db : Db) :
    Advance x db d (d.next x db).1 (d.next x db).2 ∧ Position (d.next x db).1 := by
  cases hd with
  | @opening c hc =>
    simp only [Delivery.next, Delivery.openSession]
    split
    · exact ⟨.outside rfl rfl (.refl db), .readying hc⟩
    · exact ⟨.outside rfl rfl (.refl db), .creatingSession hc⟩
  | @creatingSession c session hc =>
    simp only [Delivery.next, Delivery.createSession]
    split
    · next hsession =>
      obtain ⟨sessions, rfl⟩ := insertSession_eq_ok hsession
      exact ⟨.outside rfl rfl ⟨rfl, rfl, [], by simp, by simp⟩, .readying hc⟩
    · exact ⟨.outside rfl rfl (.refl db), .ended false⟩
  | @readying c session hc =>
    simp only [Delivery.next, Delivery.recordReady]
    split
    · next happ =>
      exact ⟨.outside rfl rfl (inlineOnly_append_other happ (by decide)), .pinning hc⟩
    · exact ⟨.outside rfl rfl (.refl db), .ended false⟩
  | @pinning c session hc =>
    simp only [Delivery.next, Delivery.pin]
    split
    · exact ⟨.outside rfl rfl (.refl db), .ended false⟩
    · split
      · exact ⟨.outside rfl rfl (.refl db), .ended false⟩
      · simp only [hc.1]
        exact ⟨.outside rfl rfl (.refl db), .inserting ⟨rfl, hc.2⟩ rfl⟩
  | @inserting c hc hrun =>
    simp only [Delivery.next, Delivery.insert]
    split
    · next hinsert => exact ⟨.created hrun hinsert, .working hc .starting⟩
    · exact ⟨.outside rfl rfl (.refl db), .ended false⟩
  | working hc hd => exact hd.advance hc hx db
  | @dispatching c hc =>
    simp only [Delivery.next, Delivery.reply, Reply.act, Delivery.afterReply, hc.1]
    exact ⟨.waited, .completing hc⟩
  | completing hc => exact ⟨.completed, .ended true⟩
  | failing hc => exact ⟨.failed, .reporting hc⟩
  | @reporting c category reason hc =>
    simp only [Delivery.next, Delivery.report, hc.1]
    refine ⟨.reported ?_, .ended false⟩
    unfold commit
    split
    · next happ => exact inlineOnly_append_other happ (by decide)
    · exact .refl db
  | ended ok => exact ⟨.outside rfl rfl (.refl db), .ended ok⟩

end Deliveries

/-! ## The law of one run -/

def outcomeStatus : OutboxDispatchStatus → Option RunStatus
  | .succeeded => some .completed
  | .failed => some .failed
  | .unknown => some .unknown
  | _ => none

/-- The run has its row's outcome, or it can still get it: a success leaves a failed run
alone. -/
def Agree (row : Option OutboxDispatchStatus) (run : Option RunStatus) : Prop :=
  ∀ st ∈ row, ∃ status ∈ run,
    match outcomeStatus st with
    | some outcome => status = outcome
    | none => status ≠ .failed

def Loose (row : Option OutboxDispatchStatus) (run : Option RunStatus) : Prop :=
  ∃ st ∈ row, ∃ status ∈ run, outcomeStatus st = none → status ≠ .failed

inductive Stage
  | working
  | queued
  | completing
  | failing

def Delivery.stage : Delivery → Stage
  | replying _ .dispatching => .queued
  | completing _ => .completing
  | failing _ _ _ => .failing
  | reporting _ _ _ => .failing
  | _ => .working

def Stage.Cell (row : Option OutboxDispatchStatus) (run : Option RunStatus) : Stage → Prop
  | working => row = none ∧ run = some .running
  | queued => row ≠ none ∧ Agree row run
  | completing => Loose row run
  | failing => row = none ∧ run ≠ none

lemma Working.stage (h : Working c d) : d.stage = .working := by
  cases h <;> rfl

lemma Working.context (h : Working c d) : d.context = some c := by
  cases h <;> rfl

structure Keeps (row : Option OutboxDispatchStatus) (run : Option RunStatus)
    (row' : Option OutboxDispatchStatus) (run' : Option RunStatus) : Prop where
  absent : row = none → row' = none ∧ run' = run
  stays : row ≠ none → row' ≠ none
  agree : Agree row run → Agree row' run'
  loose : Loose row run → Loose row' run'

lemma Keeps.refl (row : Option OutboxDispatchStatus) (run : Option RunStatus) :
    Keeps row run row run := ⟨fun h => ⟨h, rfl⟩, id, id, id⟩

section Cells

variable {row row' : Option OutboxDispatchStatus} {run run' : Option RunStatus} {stage : Stage}

lemma agree_of_absent (h : row = none) (run : Option RunStatus) : Agree row run := by
  intro st hst
  rw [h] at hst
  cases hst

lemma Stage.Cell.keeps (h : stage.Cell row run)
    (hk : Keeps row run row' run') : stage.Cell row' run' := by
  cases stage with
  | working => exact ⟨(hk.absent h.1).1, (hk.absent h.1).2.trans h.2⟩
  | queued => exact ⟨hk.stays h.1, hk.agree h.2⟩
  | completing => exact hk.loose h
  | failing => exact ⟨(hk.absent h.1).1, (hk.absent h.1).2 ▸ h.2⟩

lemma Agree.run_ne_none (h : Agree row run) (hrow : row ≠ none) : run ≠ none := by
  obtain ⟨st, rfl⟩ := ne_none_iff_exists'.mp hrow
  obtain ⟨status, hstatus, -⟩ := h st rfl
  exact ne_none_iff_exists'.mpr ⟨status, hstatus⟩

lemma Stage.Cell.run_ne_none (h : stage.Cell row run) : run ≠ none := by
  cases stage with
  | working => simp [h.2]
  | queued => exact h.2.run_ne_none h.1
  | completing =>
    obtain ⟨-, -, status, hstatus, -⟩ := h
    exact ne_none_iff_exists'.mpr ⟨status, hstatus⟩
  | failing => exact h.2

lemma keeps_lease (h : outcomeStatus st = none) :
    Keeps (some st) run (some .dispatching) run where
  absent := nofun
  stays _ := some_ne_none _
  agree hagree st' hst' := by
    cases hst'
    obtain ⟨status, hstatus, hmatch⟩ := hagree st rfl
    rw [h] at hmatch
    exact ⟨status, hstatus, hmatch⟩
  loose hloose := by
    obtain ⟨st', hst', status, hstatus, hopen⟩ := hloose
    cases hst'
    exact ⟨.dispatching, rfl, status, hstatus, fun _ => hopen h⟩

lemma keeps_succeed : Keeps (some .dispatching) run (some .succeeded)
    (if run ≠ some .failed then run.map fun _ => .completed else run) := by
  have key : ∀ status ∈ run, status ≠ .failed →
      (if run ≠ some .failed then run.map fun _ => .completed else run) =
        some .completed := by
    intro status hstatus hne
    obtain rfl : run = some status := hstatus
    rw [if_pos fun h => hne (some.inj h)]
    rfl
  refine ⟨nofun, fun _ => some_ne_none _, fun hagree st hst => ?_, fun hloose => ?_⟩
  · obtain ⟨status, hstatus, hne⟩ := hagree .dispatching rfl
    cases hst
    exact ⟨.completed, key status hstatus hne, rfl⟩
  · obtain ⟨st, hst, status, hstatus, hopen⟩ := hloose
    cases hst
    exact ⟨.succeeded, rfl, .completed, key status hstatus (hopen rfl), nofun⟩

lemma keeps_outcome (h : outcomeStatus st' = some outcome) :
    Keeps (some st) run (some st') (run.map fun _ => outcome) := by
  refine ⟨nofun, fun _ => some_ne_none _, fun hagree x hx => ?_, fun hloose => ?_⟩
  · obtain ⟨status, hstatus, -⟩ := hagree st rfl
    cases hx
    obtain rfl : run = some status := hstatus
    refine ⟨outcome, rfl, ?_⟩
    rw [h]
  · obtain ⟨-, -, status, hstatus, -⟩ := hloose
    obtain rfl : run = some status := hstatus
    exact ⟨st', rfl, outcome, rfl, fun hopen => by rw [h] at hopen; cases hopen⟩

end Cells

/-! ## The journal of the outbox -/

def rowStatus (runId : RunId) (db : Db) : Option OutboxDispatchStatus :=
  db.outboxStatus (replyId runId)

structure Traced (db : Db) : Prop where
  rows : ∀ r ∈ db.outbox, r.invocationId = replyId r.runId
  started : ∀ id, ∀ e ∈ db.outboxFacts id, e.kind = "DispatchStarted" →
    db.outboxStatus id ≠ none ∧ ∃ runId, id = replyId runId ∧ e.runId = some runId
  settled : ∀ runId, ∀ e ∈ db.outboxFacts (replyId runId), isTerminalKind e.kind = true →
    ∃ st ∈ rowStatus runId db, outcomeStatus st ≠ none

lemma mem_outboxFacts {id : InvocationId} : e ∈ db.outboxFacts id ↔
      e ∈ db.journal.rows ∧ e.correlationId = some id ∧ isFactKind e.kind = true := by
  simp [Db.outboxFacts, isOutboxFact]

lemma outboxStatus_of_outbox (h : db'.outbox = db.outbox) (id : InvocationId) :
    db'.outboxStatus id = db.outboxStatus id := by
  rw [Db.outboxStatus, Db.outboxStatus, h]

lemma Traced.inlineOnly (h : Traced db) (hinline : InlineOnly db db') : Traced db' := by
  obtain ⟨es, hrows, hes⟩ := hinline.journal
  have hold : ∀ {id e}, e ∈ db'.outboxFacts id → e ∈ db.outboxFacts id ∨
      (e.kind ≠ "DispatchStarted" ∧ ∀ runId, id ≠ replyId runId) := by
    intro id e he
    obtain ⟨hmem, hcorrelation, hkind⟩ := mem_outboxFacts.mp he
    rw [hrows, List.mem_append] at hmem
    rcases hmem with hmem | hmem
    · exact .inl (mem_outboxFacts.mpr ⟨hmem, hcorrelation, hkind⟩)
    · obtain ⟨hne, hother⟩ := hes e hmem hkind
      refine .inr ⟨hne, fun runId heq => hother runId ?_⟩
      rw [hcorrelation, heq]
  refine ⟨?_, fun id e he hstarted => ?_, fun runId e he hterminal => ?_⟩
  · rw [hinline.outbox]
    exact h.rows
  · rw [outboxStatus_of_outbox hinline.outbox]
    exact h.started id e ((hold he).resolve_right fun hother => hother.1 hstarted) hstarted
  · rw [rowStatus, outboxStatus_of_outbox hinline.outbox]
    exact h.settled runId e ((hold he).resolve_right fun hother => hother.2 runId rfl) hterminal

lemma Traced.of_eq (h : Traced db) (houtbox : db'.outbox = db.outbox)
    (hjournal : db'.journal = db.journal) : Traced db' := by
  have hfacts : ∀ id, db'.outboxFacts id = db.outboxFacts id := by
    intro id
    rw [Db.outboxFacts, Db.outboxFacts, hjournal]
  have hstatus := outboxStatus_of_outbox houtbox
  refine ⟨by rw [houtbox]; exact h.rows, fun id e he => ?_, fun runId e he => ?_⟩
  · rw [hfacts] at he
    rw [hstatus]
    exact h.started id e he
  · rw [hfacts] at he
    rw [rowStatus, hstatus]
    exact h.settled runId e he

lemma Traced.moves (h : Traced db) (hmoves : Moves db db' (replyId runId) st new)
    (hrows : ∀ r ∈ db'.outbox, r.invocationId = replyId r.runId)
    (hstarted : ∀ e ∈ new, e.kind = "DispatchStarted" → e.runId = some runId)
    (hsettled : ∀ e ∈ new, isTerminalKind e.kind = true → outcomeStatus st ≠ none)
    (hstays : ∀ st' ∈ rowStatus runId db, outcomeStatus st' ≠ none → outcomeStatus st ≠ none) :
    Traced db' := by
  refine ⟨hrows, fun id e he hkind => ?_, fun other e he hterminal => ?_⟩
  · by_cases hid : id = replyId runId
    · subst hid
      rw [hmoves.status_self]
      rw [hmoves.facts_self, List.mem_append] at he
      refine ⟨some_ne_none st, ?_⟩
      rcases he with he | he
      · exact (h.started _ e he hkind).2
      · exact ⟨runId, rfl, hstarted e he hkind⟩
    · rw [hmoves.status_other id hid]
      rw [hmoves.facts_other id hid] at he
      exact h.started id e he hkind
  · by_cases hid : other = runId
    · subst hid
      refine ⟨st, hmoves.status_self, ?_⟩
      rw [hmoves.facts_self, List.mem_append] at he
      rcases he with he | he
      · obtain ⟨st', hst', hne⟩ := h.settled other e he hterminal
        exact hstays st' hst' hne
      · exact hsettled e he hterminal
    · have hne : replyId other ≠ replyId runId := fun heq => hid (replyId_injective heq)
      rw [rowStatus, hmoves.status_other _ hne]
      rw [hmoves.facts_other _ hne] at he
      exact h.settled other e he hterminal

def SameIds (db db' : Db) : Prop :=
  ∀ r ∈ db'.outbox, ∃ r' ∈ db.outbox, r'.invocationId = r.invocationId ∧ r'.runId = r.runId

lemma SameIds.of_outbox (h : db'.outbox = db.outbox) : SameIds db db' :=
  fun r hr => ⟨r, by rwa [← h], rfl, rfl⟩

lemma SameIds.trans (h : SameIds db db') (h' : SameIds db' db'') : SameIds db db'' := by
  intro r hr
  obtain ⟨r', hr', hid, hrun⟩ := h' r hr
  obtain ⟨r'', hr'', hid', hrun'⟩ := h r' hr'
  exact ⟨r'', hr'', hid'.trans hid, hrun'.trans hrun⟩

lemma sameIds_update (hf : ∀ r, (f r).invocationId = r.invocationId)
    (h : db'.outbox = db.outbox.update p f hf) (hrun : ∀ r, (f r).runId = r.runId) :
    SameIds db db' := by
  intro r hr
  rw [h] at hr
  obtain ⟨r', hr', rfl⟩ := Table.mem_update.mp hr
  refine ⟨r', hr', ?_⟩
  split
  · exact ⟨(hf r').symm, (hrun r').symm⟩
  · exact ⟨rfl, rfl⟩

lemma SameIds.rows (h : SameIds db db')
    (hrows : ∀ r ∈ db.outbox, r.invocationId = replyId r.runId) :
    ∀ r ∈ db'.outbox, r.invocationId = replyId r.runId := by
  intro r hr
  obtain ⟨r', hr', hid, hrun⟩ := h r hr
  rw [← hid, ← hrun]
  exact hrows r' hr'

lemma sameIds_settle
    (h : settleOutboxRow invocationId f hf db = .ok db') (hrun : ∀ r, (f r).runId = r.runId) :
    SameIds db db' := by
  obtain ⟨-, -, -, -, rfl⟩ := settleOutboxRow_eq_ok h
  exact sameIds_update hf rfl hrun

section Writes

variable [Platform] {now : Timestamp} {runId : RunId}

lemma outbox_append {run : Option RunId}
    (h : db.append stamp kind run sessionId correlationId payload = .ok db') :
    db'.outbox = db.outbox := by
  obtain ⟨journal, rfl, -⟩ := Db.append_eq_ok h
  rfl

lemma ofSettlement_sameIds : OfSettlement SameIds where
  refl _ r hr := ⟨r, hr, rfl, rfl⟩
  trans := .trans
  append _ h := .of_outbox (outbox_append h)
  status _ _ _ _ _ := .of_outbox rfl
  settle h hf := sameIds_settle h fun r => (hf r).1

lemma sameIds_recover (h : recoverInvocation invocation now stamp db = .ok db') : SameIds db db' := by
  obtain ⟨db₁, happ, h⟩ := bind_eq_ok.mp h
  have hupdate : db'.outbox =
      db₁.outbox.update (fun r => decide (r.invocationId = invocation.invocationId))
        (fun r => { r with status := .unknown, lockedBy := none, lockedUntil := none,
                           updatedAt := now }) (fun _ => rfl) := by
    split at h
    · rw [← return_eq_ok.mp h]
      rfl
    · rw [← return_eq_ok.mp h]
  rw [outbox_append happ] at hupdate
  exact sameIds_update _ hupdate fun _ => rfl

end Writes

end AgentCore.Server
