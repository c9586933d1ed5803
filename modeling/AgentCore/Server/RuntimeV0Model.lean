import AgentCore.AgentRuntime.RuntimeLoop
import AgentCore.Gateway.ToolCall

/-! The provider behind the loop of model turns. The loop keeps the results of the calls and the
adapter keeps the turns in which the provider asked for them; a later request pairs the two. -/

namespace AgentCore.Server

open Foundation Domain AgentRuntime
open Gateway (ToolCall)

/-! ## The tool call of a response -/

inductive EndpointChoice
  | primary
  | fallback

inductive ToolNameMode
  | passthrough
  | indexedMapping (map : List (String × String))

structure ProviderToolTurn where
  endpoint : EndpointChoice
  (providerToolCallId wireName canonicalOperation argumentsJson : String)
  reasoningContent : Option String

inductive ToolCallResult
  | absent
  | valid (call : ToolCall)
  | malformed (reason : String)

structure ParsedToolCall where
  toolCallResult : ToolCallResult
  providerTurn : Option ProviderToolTurn

def MAX_PROVIDER_ID_LEN : Nat := 256
def MAX_WIRE_NAME_LEN : Nat := 128
def MAX_ARGS_JSON_LEN : Nat := 8192

def pointer : List String → Json → Option Json
  | [], v => some v
  | token :: path, .obj fs => (fs.lookup token).bind (pointer path)
  | token :: path, .arr xs => (token.toNat?.bind (xs[·]?)).bind (pointer path)
  | _, _ => none

def typeName : Json → String
  | .null => "null"
  | .bool _ => "boolean"
  | .num _ => "number"
  | .str _ => "string"
  | .arr _ => "array"
  | .obj _ => "object"

variable [Platform] (jsonError : String → String)

def readToolCall (mode : ToolNameMode) (choice : EndpointChoice) (value call : Json) :
    Except String (ToolCall × ProviderToolTurn) := do
  let function ← okOr (call.get "function") "missing function block"
  let rawId ← okOr (((call.get "id").bind Json.asStr).filter (trim · ≠ "")) "missing tool_call id"
  require (rawId.utf8ByteSize ≤ MAX_PROVIDER_ID_LEN) "provider id too long"
  let rawOperation ← okOr (((function.get "name").bind Json.asStr).filter (trim · ≠ ""))
    "missing function name"
  require (rawOperation.utf8ByteSize ≤ MAX_WIRE_NAME_LEN) "wire name too long"
  let operation ← match mode with
    | .passthrough => pure rawOperation
    | .indexedMapping map => okOr (map.lookup rawOperation) "unknown function name"
  let argumentsStr ← okOr ((function.get "arguments").bind Json.asStr) "missing arguments"
  require (argumentsStr.utf8ByteSize ≤ MAX_ARGS_JSON_LEN) "arguments too long"
  let arguments ← match fromStr argumentsStr with
    | some (.obj fs) => pure (.obj fs)
    | some v => throw ("arguments must be a JSON object, got " ++ typeName v)
    | none => throw ("arguments JSON parse error: " ++ jsonError argumentsStr)
  return (⟨Platform.sha256Hex rawId, operation, arguments⟩,
    ⟨choice, rawId, rawOperation, operation, argumentsStr,
      (pointer ["choices", "0", "message", "reasoning_content"] value).bind Json.asStr⟩)

def parseToolCall (value : Json) (mode : ToolNameMode) (choice : EndpointChoice) :
    ParsedToolCall :=
  match (pointer ["choices", "0", "message", "tool_calls", "0"] value).filter (· ≠ .null) with
  | none => ⟨.absent, none⟩
  | some toolCall =>
    match readToolCall jsonError mode choice value toolCall with
    | .error reason => ⟨.malformed reason, none⟩
    | .ok (call, turn) => ⟨.valid call, some turn⟩

/-! ## The outputs of the client -/

structure LlmFollowUp where
  providerTurn : ProviderToolTurn
  resultContent : String

structure LlmInput where
  userText : String
  providerTools : List Json
  followUps : List LlmFollowUp

structure LlmOutput where
  content : String
  toolCall : ToolCallResult
  providerTurn : Option ProviderToolTurn

/-- How a request ends: in an error, in a text that the client puts in place of a response, or
in a response of the provider. -/
inductive ProviderResponse
  | refused (error : String)
  | unanswered (content : String)
  | answered (value : Json) (mode : ToolNameMode) (choice : EndpointChoice)

def successOutput (value : Json) (mode : ToolNameMode) (choice : EndpointChoice) : LlmOutput :=
  let content := (((pointer ["choices", "0", "message", "content"] value).bind Json.asStr).map
    trim).getD ""
  let parsed := parseToolCall jsonError value mode choice
  let content := match parsed.toolCallResult with
    | .malformed _ =>
      if content = "" then "The tool call could not be parsed. Please try again." else content
    | .valid _ => if content = "" then "正在调用工具查询信息…" else content
    | .absent => content
  ⟨content, parsed.toolCallResult, parsed.providerTurn⟩

def ProviderResponse.output : ProviderResponse → Except String LlmOutput
  | refused error => .error error
  | unanswered content => .ok ⟨content, .absent, none⟩
  | answered value mode choice => .ok (successOutput jsonError value mode choice)

/-! ## The adapter -/

def missingProviderTurn (i : Nat) : String :=
  "missing_provider_turn_for_follow_up_" ++ toString i

structure RuntimeV0Model (σ : Type) where
  providerTurnHistory : List ProviderToolTurn
  sent : List (LlmInput × ProviderResponse)
  rest : σ

def pairFollowUps (history : List ProviderToolTurn) (followUps : List ToolResult) :
    Except String (List LlmFollowUp) :=
  followUps.zipIdx.mapM fun (fr, i) =>
    return ⟨← okOr history[i]? (missingProviderTurn i), fr.text⟩

def LlmOutput.modelOutput (output : LlmOutput) : Except String ModelOutput :=
  match output.toolCall with
  | .valid call => .ok ⟨output.content, some ⟨call.operation, call.arguments⟩⟩
  | .absent => .ok ⟨output.content, none⟩
  | .malformed _ => .error "malformed_tool_call_from_model"

def ProviderResponse.modelOutput (response : ProviderResponse) : Except String ModelOutput :=
  response.output jsonError >>= LlmOutput.modelOutput

variable {σ : Type} (client : LlmInput → σ → ProviderResponse × σ) (toolsJson : List Json)

def complete (turn : Turn) (m : RuntimeV0Model σ) : Except String ModelOutput × RuntimeV0Model σ :=
  match pairFollowUps m.providerTurnHistory turn.followUps with
  | .error e => (.error e, m)
  | .ok followUps =>
    let input : LlmInput := ⟨turn.userText, toolsJson, followUps⟩
    let (response, rest) := client input m.rest
    let m := { m with sent := m.sent ++ [(input, response)], rest }
    match response.output jsonError with
    | .error e => (.error e, m)
    | .ok output =>
      (output.modelOutput, { m with
        providerTurnHistory := m.providerTurnHistory ++ output.providerTurn.toList })

structure Executed where
  response : ProviderResponse
  call : ToolCall
  turn : ProviderToolTurn
  result : InvocationResult
  asked : ∃ content, response.output jsonError = .ok ⟨content, .valid call, some turn⟩

def submission : Call → Option (String × Json × InvocationResult)
  | .submit _ tool arguments (.ok result) => some (tool, arguments, result)
  | _ => none

variable {jsonError}

namespace Executed

variable (e : Executed jsonError)

def followUp : LlmFollowUp := ⟨e.turn, render e.result⟩

def toolResult : ToolResult := ⟨e.call.operation, render e.result⟩

def submitted : String × Json × InvocationResult := (e.call.operation, e.call.arguments, e.result)

end Executed

/-- After the calls `before` a request carries exactly these, in their order, and the next
executed call is read from the response to it. -/
def Paired : List (Executed jsonError) → List (Executed jsonError) →
    List (LlmInput × ProviderResponse) → Prop
  | before, [], [request] => request.1.followUps = before.map Executed.followUp
  | before, e :: after, request :: sent =>
    request.1.followUps = before.map Executed.followUp ∧ request.2 = e.response ∧
      Paired (before ++ [e]) after sent
  | _, _, _ => False

/-- What a run does after the calls `before`: the submissions that succeed are the executed
calls, the loop is answered with what the requests end in, and the requests are paired. -/
def Transcript (before : List (Executed jsonError)) (sent : List (LlmInput × ProviderResponse))
    (o : Outcome (RuntimeV0Model σ)) : Prop :=
  ∃ after new, o.state.sent = sent ++ new ∧
    o.calls.filterMap submission = after.map Executed.submitted ∧
    (o.calls.filterMap Call.asked).map Prod.snd = new.map (·.2.modelOutput jsonError) ∧
    Paired before after new

variable {client toolsJson} {before : List (Executed jsonError)} {m : RuntimeV0Model σ}

lemma pairFollowUps_executed :
    pairFollowUps (before.map (·.turn)) (before.map Executed.toolResult) =
      .ok (before.map Executed.followUp) := by
  rw [pairFollowUps, mapM_eq_ok, List.forall₂_iff_get]
  refine ⟨by simp, fun i hi _ => ?_⟩
  have hlt : i < before.length := by simpa using hi
  simp [okOr, hlt, Executed.followUp, Executed.toolResult]

lemma complete_sends (hhistory : m.providerTurnHistory = before.map (·.turn))
    (hresults : turn.followUps = before.map Executed.toolResult)
    (h : complete jsonError client toolsJson turn m = (out, m')) :
    ∃ request, request.1.followUps = before.map Executed.followUp ∧ m'.sent = m.sent ++ [request] ∧
      out = request.2.modelOutput jsonError ∧ ∀ output, request.2.output jsonError = .ok output →
        m'.providerTurnHistory = before.map (·.turn) ++ output.providerTurn.toList := by
  rw [complete, hhistory, hresults, pairFollowUps_executed] at h
  dsimp only at h
  split at h
  · next e he =>
    cases h
    exact ⟨(_, _), rfl, rfl, by rw [ProviderResponse.modelOutput, he]; rfl,
      fun output houtput => by cases he.symm.trans houtput⟩
  · next output houtput =>
    cases h
    exact ⟨(_, _), rfl, rfl, by rw [ProviderResponse.modelOutput, houtput]; rfl,
      fun output' houtput' => by cases houtput.symm.trans houtput'; rfl⟩

lemma Transcript.last (hhistory : m.providerTurnHistory = before.map (·.turn))
    (hresults : turn.followUps = before.map Executed.toolResult)
    (h : complete jsonError client toolsJson turn m = (out, m')) (hstate : o.state.sent = m'.sent)
    (hcalls : o.calls.filterMap submission = [])
    (hasked : (o.calls.filterMap Call.asked).map Prod.snd = [out]) :
    Transcript before m.sent o := by
  obtain ⟨request, hcarried, hsent, rfl, -⟩ := complete_sends hhistory hresults h
  exact ⟨[], [request], hstate.trans hsent, hcalls, hasked, hcarried⟩

variable (submit : String → String → Json → σ → Except String InvocationResult × σ)
  (newId : σ → String × σ) (userText : String) (toolView : List Tool) (maxToolCalls : Nat)

end AgentCore.Server
