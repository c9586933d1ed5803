import AgentCore.Gateway.Decision
import AgentCore.Gateway.Policy

/-! Delivery of a validated message: the routing, the default runtime, the legacy runtime,
and the reply path that both use. Every store call is one action of the delivering thread;
what the model and the tools do is an input. -/

namespace AgentCore.Server

open Foundation Domain Journal Gateway

/-! ## Routing -/

def CALCULATOR_SMOKE_SENTENCE : String := "用 external.calculator 计算 6 * 7"

def calculatorMatches (event : ValidatedEvent) : Bool :=
  match event.payload with
  | .userMessage text _ _ => decide (trim text = CALCULATOR_SMOKE_SENTENCE)

inductive RuntimeKind
  | v0
  | legacy
deriving DecidableEq

/-- The calculator's sentence goes to the legacy runtime whatever the flag says. -/
def routeEvent (config : KernelConfig) (event : ValidatedEvent) : RuntimeKind :=
  if calculatorMatches event then .legacy
  else if config.forceLegacyRuntime then .legacy
  else .v0

/-! ## Inputs -/

def approvalKinds : List JournalEventKind := .approvalRequested :: decisionKinds

inductive LoopEvent
  | answer (text : String)
  | callTool (tool : String)
  | toolResult
  | record (kind : { kind : JournalEventKind // kind ∉ approvalKinds })
      (correlationId : Option String) (payload : Json)
  /-- The legacy loop fails the run and goes on to a reply. -/
  | failRun
  | error (reason : String)

/-- What one action takes from outside: the clock, fresh ids, the registry, the grants found
for the principal, a pending proposal, and what happens in the loop. A store call or a hook
that fails answers with its error. -/
structure DeliveryInput where
  now : Timestamp
  stamp : Stamp
  sessionId : SessionId
  runId : RunId
  snapshot : Option RegistrySnapshot
  grants : List CapabilityGrant
  proposalId : Option String
  decisionId : String
  event : LoopEvent
  refusal : Option String

/-! ## The reply path -/

structure RunContext where
  runtime : RuntimeKind
  config : KernelConfig
  event : ValidatedEvent
  session : Session
  snapshot : RegistrySnapshot
  run : Run
deriving DecidableEq

def replyIntent (run : Run) (session : Session) (text : String) (messageId chatId : Option String) :
    InvocationIntent :=
  match session.channel with
  | .feishu =>
    { invocationId := "reply:" ++ run.id
      runId := run.id
      operation := FEISHU_SEND_MESSAGE
      arguments := .mkObj [("session_id", .str session.id),
        ("message_id", .str (messageId.getD "")), ("chat_id", .str (chatId.getD "")),
        ("text", .str text)]
      idempotencyKey := some ("feishu-reply:" ++ run.id) }
  | .cli =>
    { invocationId := "reply:" ++ run.id
      runId := run.id
      operation := STDOUT_SEND_TEXT
      arguments := .mkObj [("session_id", .str session.id), ("text", .str text)]
      idempotencyKey := some ("stdout-reply:" ++ run.id) }

def ensureNonblankReply (content : String) : String :=
  if trim content = "" then "No reply was generated for this turn." else content

def RunContext.intent (c : RunContext) (text : String) : InvocationIntent :=
  match c.event.payload with
  | .userMessage _ messageId chatId => replyIntent c.run c.session text messageId chatId

def applyPendingProposalPresentation (proposalId : Option String) (intent : InvocationIntent) :
    InvocationIntent :=
  if intent.operation = FEISHU_SEND_MESSAGE then
    match proposalId, intent.arguments with
    | some id, .obj fields =>
      { intent with arguments := .obj (Json.insertField "presentation"
          (.mkObj [("kind", .str PENDING_PROPOSAL_KIND), ("proposal_id", .str id)])
          (Json.removeField "text" fields)) }
    | _, _ => intent
  else intent

def isWrite (snapshot : RegistrySnapshot) (operation : String) : Bool :=
  match snapshot.lookup operation with
  | some spec => decide (spec.risk = .write)
  | none => true

/-- Where a reply stands: before its proposal is recorded, before its approval is recorded,
paused (before the request and before the status), or queued (before the dispatch and before
the status). A notice of failure is queued and leaves the run's status alone. -/
inductive Reply
  | proposing (intent : InvocationIntent) (notice : Bool)
  | approving (approved : ApprovedInvocation) (notice : Bool)
  | requesting (approved : ApprovedInvocation)
  | pausing
  | queueing (approved : ApprovedInvocation) (notice : Bool)
  | dispatching
deriving DecidableEq

inductive ReplyResult
  | next (reply : Reply)
  | done
  | failed (reason : String)

def requestFields (c : RunContext) (approved : ApprovedInvocation) : List (String × Json) :=
  [("operation", .str approved.intent.operation), ("decision_id", .str approved.decisionId),
    ("invocation_id", .str approved.intent.invocationId), ("run_id", .str c.run.id),
    ("session_id", .str c.session.id), ("arguments", approved.intent.arguments),
    ("idempotency_key", Json.ofOption approved.intent.idempotencyKey)]

section Reply

variable [Platform]

def RunContext.append (c : RunContext) (x : DeliveryInput) (kind : JournalEventKind)
    (correlationId : Option String) (payload : Json) (db : Db) : Except String Db :=
  db.append x.stamp kind (some c.run.id) (some c.session.id) correlationId payload

def propose (c : RunContext) (x : DeliveryInput) (intent : InvocationIntent) (notice : Bool)
    (db : Db) : ReplyResult × Db :=
  match c.append x .invocationProposed (some intent.invocationId)
      (.mkObj [("operation", .str intent.operation),
        ("idempotency_key", Json.ofOption intent.idempotencyKey)]) db with
  | .error reason => (.failed reason, db)
  | .ok db =>
    match approveInvocation intent c.run c.session c.snapshot x.decisionId with
    | .ok approved => (.next (.approving approved notice), db)
    | .error reason => (.failed reason, db)

def enqueueOrPause (c : RunContext) (approved : ApprovedInvocation) (notice : Bool) : Reply :=
  if !notice && c.config.requireWriteApproval && isWrite c.snapshot approved.intent.operation then
    .requesting approved
  else .queueing approved notice

def recordApproved (c : RunContext) (x : DeliveryInput) (approved : ApprovedInvocation)
    (notice : Bool) (db : Db) : ReplyResult × Db :=
  match c.append x .invocationApproved (some approved.intent.invocationId)
      (.mkObj [("decision_id", .str approved.decisionId),
        ("operation", .str approved.intent.operation)]) db with
  | .ok db => (.next (enqueueOrPause c approved notice), db)
  | .error reason => (.failed reason, db)

def requestApproval (c : RunContext) (x : DeliveryInput) (approved : ApprovedInvocation)
    (db : Db) : ReplyResult × Db :=
  match c.append x .approvalRequested (some approved.intent.invocationId)
      (.mkObj (requestFields c approved)) db with
  | .ok db => (.next .pausing, db)
  | .error reason => (.failed reason, db)

def queueReply (c : RunContext) (x : DeliveryInput) (approved : ApprovedInvocation)
    (notice : Bool) (db : Db) : ReplyResult × Db :=
  match queueOutboxDispatch approved (some c.session.id) x.now x.stamp db with
  | .ok (_, db) => (if notice then .done else .next .dispatching, db)
  | .error reason => (.failed reason, db)

def Reply.act (c : RunContext) (x : DeliveryInput) (reply : Reply) (db : Db) : ReplyResult × Db :=
  match reply with
  | proposing intent notice => propose c x intent notice db
  | approving approved notice => recordApproved c x approved notice db
  | requesting approved => requestApproval c x approved db
  | pausing => (.done, setRunStatus c.run.id .awaitingApproval x.now db)
  | queueing approved notice => queueReply c x approved notice db
  | dispatching => (.done, setRunStatus c.run.id .waitingDispatch x.now db)

end Reply

/-! ## The delivering thread -/

structure DeliveryContext where
  runtime : RuntimeKind
  config : KernelConfig
  event : ValidatedEvent
deriving DecidableEq

inductive Delivery
  | opening (c : DeliveryContext)
  | creatingSession (c : DeliveryContext) (session : Session)
  | readying (c : DeliveryContext) (session : Session)
  | pinning (c : DeliveryContext) (session : Session)
  /-- The legacy runtime resolves the run's budget before the run is inserted. -/
  | budgeting (c : RunContext)
  | inserting (c : RunContext)
  | starting (c : RunContext)
  /-- The default runtime's loop: before a model turn with so many tool calls made, and
  while a tool runs. -/
  | thinking (c : RunContext) (calls : Nat)
  | invoking (c : RunContext) (calls : Nat)
  /-- The legacy runtime's loop, its answer, the answer of a run that did not yield, and
  that of a run that did not fail. -/
  | looping (c : RunContext)
  | answered (c : RunContext) (text : String)
  | judging (c : RunContext) (text : String)
  | presenting (c : RunContext) (text : String)
  | replying (c : RunContext) (reply : Reply)
  /-- A failure: before the status, and before the fact. The legacy runtime sends a notice
  after it. -/
  | failing (c : RunContext) (category reason : String)
  | reporting (c : RunContext) (category reason : String)
  | completing (c : RunContext)
  | ended (ok : Bool)
deriving DecidableEq

def deliverEvent (config : KernelConfig) (event : ValidatedEvent) : Delivery :=
  .opening ⟨routeEvent config event, config, event⟩

def ChannelKind.debug : ChannelKind → String
  | .cli => "Cli"
  | .feishu => "Feishu"

def INITIAL_LLM_FAILED_MSG : String := "这次处理模型暂时不可用，任务尚未开始完成。请稍后重试。"

def addGrants (principal : RunPrincipal) (grants : List CapabilityGrant) : RunPrincipal :=
  { principal with
    grants := grants.foldl (fun acc g =>
      if acc.any fun held => held.operation = g.operation then acc else acc ++ [g])
      principal.grants }

def createRun (c : DeliveryContext) (session : Session) (snapshot : RegistrySnapshot)
    (x : DeliveryInput) : Run where
  id := x.runId
  sessionId := session.id
  agentId := c.config.agentId
  triggerEventId := c.event.eventId
  principal := addGrants c.event.principal x.grants
  parentRunId := none
  delegatedBy := none
  status := .running
  createdAt := x.now
  updatedAt := x.now
  registrySnapshotId := snapshot.snapshotId

def failureIntent (c : RunContext) (text : String) : InvocationIntent :=
  { c.intent text with idempotencyKey := some ("failure-reply:" ++ c.run.id) }

namespace Delivery

variable [Platform]

def openSession (c : DeliveryContext) (x : DeliveryInput) (db : Db) : Delivery :=
  match findSession c.event.sessionTarget db with
  | some session => readying c session
  | none => creatingSession c (newSession c.event.sessionTarget x.sessionId x.now)

def createSession (c : DeliveryContext) (session : Session) (db : Db) : Delivery × Db :=
  match insertSession session db with
  | .ok db => (readying c session, db)
  | .error _ => (ended false, db)

def recordReady (c : DeliveryContext) (x : DeliveryInput) (session : Session) (db : Db) :
    Delivery × Db :=
  match db.append x.stamp .sessionReady none (some session.id) (some c.event.eventId)
      (.mkObj [("session_id", .str session.id), ("agent_id", .str session.agentId),
        ("channel", .str (ChannelKind.debug session.channel)),
        ("conversation_key", .str session.conversationKey)]) with
  | .ok db => (pinning c session, db)
  | .error _ => (ended false, db)

def pin (c : DeliveryContext) (x : DeliveryInput) (session : Session) : Delivery :=
  match x.snapshot with
  | none => ended false
  | some snapshot =>
    if snapshot.snapshotId = "" then ended false
    else
      let context : RunContext :=
        ⟨c.runtime, c.config, c.event, session, snapshot, createRun c session snapshot x⟩
      match c.runtime with
      | .v0 => inserting context
      | .legacy => budgeting context

def budget (c : RunContext) (x : DeliveryInput) (db : Db) : Delivery × Db :=
  match x.event with
  | .record kind correlationId payload =>
    match c.append x kind correlationId payload db with
    | .ok db => (budgeting c, db)
    | .error _ => (ended false, db)
  | _ => (inserting c, db)

def insert (c : RunContext) (db : Db) : Delivery × Db :=
  match insertRun c.run db with
  | .ok db => (starting c, db)
  | .error _ => (ended false, db)

def start (c : RunContext) (x : DeliveryInput) (db : Db) : Delivery × Db :=
  match c.append x .runStarted (some c.event.eventId)
      (.mkObj [("run_id", .str c.run.id), ("trigger_event_id", .str c.run.triggerEventId),
        ("principal_id", .str c.run.principal.principalId)]) db with
  | .ok db => (match c.runtime with | .v0 => thinking c 0 | .legacy => looping c, db)
  | .error _ => (ended false, db)

def think (c : RunContext) (x : DeliveryInput) (calls : Nat) : Delivery :=
  match x.event with
  | .answer text => replying c (.proposing (c.intent (ensureNonblankReply text)) false)
  | .callTool tool =>
    if c.config.maxToolRounds ≤ calls then
      failing c "runtime_v0_failed" ("tool_call_limit_reached: " ++ tool ++ " (max_tool_calls=" ++
        toString c.config.maxToolRounds ++ ")")
    else invoking c calls
  | .error reason => failing c "runtime_v0_failed" reason
  | _ => thinking c calls

def invoke (c : RunContext) (x : DeliveryInput) (calls : Nat) (db : Db) : Delivery × Db :=
  match x.event with
  | .record kind correlationId payload =>
    match c.append x kind correlationId payload db with
    | .ok db => (invoking c calls, db)
    | .error reason => (failing c "runtime_v0_failed" ("tool_execution_failed: " ++ reason), db)
  | .toolResult => (thinking c (calls + 1), db)
  | .error reason => (failing c "runtime_v0_failed" reason, db)
  | _ => (invoking c calls, db)

def loop (c : RunContext) (x : DeliveryInput) (db : Db) : Delivery × Db :=
  match x.event with
  | .record kind correlationId payload =>
    match c.append x kind correlationId payload db with
    | .ok db => (looping c, db)
    | .error _ => (ended false, db)
  | .failRun => (looping c, setRunStatus c.run.id .failed x.now db)
  | .answer text => (answered c text, db)
  | .error reason => (failing c "initial_llm_failed" reason, db)
  | _ => (looping c, db)

def runYielded (runId : RunId) (db : Db) : Bool :=
  (runFacts [.toolBudgetExhausted, .toolLoopWallClockExceeded] runId db).any fun r =>
    decide (((rowToEvent r).payload.get "exhaustion_action").bind Json.asStr = some "yield")

def judge (c : RunContext) (text : String) (db : Db) : Delivery :=
  if runStatus c.run.id db = some .failed then
    replying c (.proposing (failureIntent c (ensureNonblankReply text)) true)
  else presenting c text

def present (c : RunContext) (x : DeliveryInput) (text : String) : Delivery :=
  replying c (.proposing
    (applyPendingProposalPresentation x.proposalId (c.intent (ensureNonblankReply text))) false)

def afterReply (c : RunContext) (result : ReplyResult) : Delivery :=
  match result with
  | .next reply => replying c reply
  | .done => match c.runtime with | .v0 => completing c | .legacy => ended true
  | .failed reason =>
    match c.runtime with
    | .v0 => failing c "runtime_v0_reply_failed" reason
    | .legacy => ended false

def reply (c : RunContext) (x : DeliveryInput) (r : Reply) (db : Db) : Delivery × Db :=
  (afterReply c (r.act c x db).1, (r.act c x db).2)

def report (c : RunContext) (x : DeliveryInput) (category reason : String) (db : Db) :
    Delivery × Db :=
  match c.runtime with
  | .v0 =>
    (ended false, commit db (c.append x .runFailed none
      (.mkObj [("run_id", .str c.run.id), ("error_category", .str category),
        ("reason", .str reason)]) db))
  | .legacy =>
    match c.append x .runFailed none
        (.mkObj [("run_id", .str c.run.id), ("error_category", .str category)]) db with
    | .ok db => (replying c (.proposing (failureIntent c INITIAL_LLM_FAILED_MSG) true), db)
    | .error _ => (ended false, db)

def next (x : DeliveryInput) (d : Delivery) (db : Db) : Delivery × Db :=
  match d with
  | opening c => (openSession c x db, db)
  | creatingSession c session => createSession c session db
  | readying c session => recordReady c x session db
  | pinning c session => (pin c x session, db)
  | budgeting c => budget c x db
  | inserting c => insert c db
  | starting c => start c x db
  | thinking c calls => (think c x calls, db)
  | invoking c calls => invoke c x calls db
  | looping c => loop c x db
  | answered c text => (if runYielded c.run.id db then completing c else judging c text, db)
  | judging c text => (judge c text db, db)
  | presenting c text => (present c x text, db)
  | replying c r => reply c x r db
  | failing c category reason =>
    (reporting c category reason, setRunStatus c.run.id .failed x.now db)
  | reporting c category reason => report c x category reason db
  | completing c => (ended true, setRunStatus c.run.id .completed x.now db)
  | ended ok => (ended ok, db)

/-- What an error of a call leads to: the default runtime fails the run when the loop or
the reply fails, an unreadable status does not count as failed, and every other error ends
the delivery. -/
def refuse (reason : String) : Delivery → Delivery
  | thinking c _ => failing c "runtime_v0_failed" reason
  | invoking c _ => failing c "runtime_v0_failed" ("tool_execution_failed: " ++ reason)
  | judging c text => presenting c text
  | replying c _ => afterReply c (.failed reason)
  | ended ok => ended ok
  | _ => ended false

def act (x : DeliveryInput) (d : Delivery) (db : Db) : Delivery × Db :=
  match x.refusal with
  | some reason => (d.refuse reason, db)
  | none => d.next x db

end Delivery

/-! ## One message -/

def sampleMessage (text : String) : ValidatedEvent where
  eventId := "event"
  source := .cli
  principal := cliPrincipal {}
  sessionTarget := ⟨"main", .cli, "local"⟩
  payload := .userMessage text none none
  dedupeKey := "cli:1"
  occurredAt := 0
  chatType := none

def sampleInput (n : Nat) : DeliveryInput where
  now := n
  stamp := ⟨"d" ++ toString n, n⟩
  sessionId := "session"
  runId := "run"
  snapshot := some ⟨"snapshot", CATALOG⟩
  grants := []
  proposalId := none
  decisionId := "decision"
  event := .answer "ok"
  refusal := none

end AgentCore.Server
