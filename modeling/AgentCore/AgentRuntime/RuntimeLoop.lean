import AgentCore.Foundation.Json

/-! The loop of model turns. Every turn sees the results of all calls so far, and a turn that
asks for one call more than the limit ends the loop before the call is made. -/

namespace AgentCore.AgentRuntime

open Foundation List

inductive InvocationStatus
  | succeeded
  | failed
  | unknown

structure InvocationResult where
  invocationId : String
  status : InvocationStatus
  output : Json

structure Tool where
  (name description : String)
  parameters : Json

structure Action where
  tool : String
  arguments : Json

structure ToolResult where
  (tool text : String)

structure Turn where
  userText : String
  toolView : List Tool
  followUps : List ToolResult

structure ModelOutput where
  text : String
  action : Option Action

def render (result : InvocationResult) : String :=
  match result.status with
  | .succeeded => "ok: " ++ result.output.toText
  | .failed => "failed: " ++ result.output.toText
  | .unknown => "unknown: " ++ result.output.toText

/-- The model, the port and the source of the identifiers, over a state that they may share. -/
structure Host (σ : Type) where
  complete : Turn → σ → Except String ModelOutput × σ
  submit : String → String → Json → σ → Except String InvocationResult × σ
  newId : σ → String × σ

inductive Call
  | complete (turn : Turn) (out : Except String ModelOutput)
  | submit (invocationId tool : String) (arguments : Json) (result : Except String InvocationResult)

structure Outcome (σ : Type) where
  result : Except String String
  calls : List Call
  state : σ

def limitError (tool : String) (maxToolCalls : Nat) : String :=
  "tool_call_limit_reached: " ++ tool ++ " (max_tool_calls=" ++ toString maxToolCalls ++ ")"

variable {σ : Type} (host : Host σ) (userText : String) (toolView : List Tool) (maxToolCalls : Nat)

def rounds (followUps : List ToolResult) (s : σ) : Outcome σ :=
  let turn : Turn := ⟨userText, toolView, followUps⟩
  match host.complete turn s with
  | (.error e, s) => ⟨.error e, [.complete turn (.error e)], s⟩
  | (.ok ⟨text, none⟩, s) => ⟨.ok text, [.complete turn (.ok ⟨text, none⟩)], s⟩
  | (.ok ⟨text, some action⟩, s) =>
    let asked := Call.complete turn (.ok ⟨text, some action⟩)
    if maxToolCalls ≤ followUps.length then ⟨.error (limitError action.tool maxToolCalls), [asked], s⟩
    else
      let invocationId := "inv_" ++ (host.newId s).1
      match host.submit invocationId action.tool action.arguments (host.newId s).2 with
      | (.error e, s) =>
        ⟨.error e, [asked, .submit invocationId action.tool action.arguments (.error e)], s⟩
      | (.ok result, s) =>
        let rest := rounds (followUps ++ [⟨action.tool, render result⟩]) s
        ⟨rest.result,
          asked :: .submit invocationId action.tool action.arguments (.ok result) :: rest.calls,
          rest.state⟩
termination_by maxToolCalls - followUps.length
decreasing_by simp only [length_append, length_singleton]; omega

def run (s : σ) : Outcome σ := rounds host userText toolView maxToolCalls [] s

namespace Call

def asked : Call → Option (Turn × Except String ModelOutput)
  | complete turn out => some (turn, out)
  | submit .. => none

def followUp : Call → Option ToolResult
  | submit _ tool _ (.ok result) => some ⟨tool, render result⟩
  | _ => none

def isSubmit : Call → Bool
  | complete .. => false
  | submit .. => true

def failure : Call → Option String
  | complete _ (.error e) => some e
  | submit _ _ _ (.error e) => some e
  | _ => none

end Call

attribute [local simp] Call.asked Call.followUp Call.isSubmit Call.failure filterMap_cons
  countP_cons

structure Contract (before : List ToolResult) (calls : List Call)
    (result : Except String String) : Prop where
  submitted : before.length + calls.countP Call.isSubmit ≤ maxToolCalls
  asked : before.length + (calls.filterMap Call.asked).length ≤ maxToolCalls + 1
  /-- The turn `k` carries the results of the first `k` submissions, the text and the view. -/
  carried : ∀ k turn out, (calls.filterMap Call.asked)[k]? = some (turn, out) →
    k ≤ (calls.filterMap Call.followUp).length ∧
      turn = ⟨userText, toolView, before ++ (calls.filterMap Call.followUp).take k⟩
  answered : ∀ text, result = .ok text ↔ ∃ turn, Call.complete turn (.ok ⟨text, none⟩) ∈ calls
  failed : ∀ call ∈ calls, ∀ e, call.failure = some e →
    result = .error e ∧ calls.getLast? = some call
  /-- An error that is neither the model's nor the port's is that of the limit. -/
  limited : (∃ e, result = .error e ∧ ∀ call ∈ calls, call.failure = none) ↔
    ∃ turn text action, (calls.filterMap Call.asked)[maxToolCalls - before.length]? =
      some (turn, .ok ⟨text, some action⟩)
  /-- The action that exceeds the limit is not submitted. -/
  refused : ∀ turn text action, (calls.filterMap Call.asked)[maxToolCalls - before.length]? =
      some (turn, .ok ⟨text, some action⟩) →
    result = .error (limitError action.tool maxToolCalls) ∧
      calls.getLast? = some (.complete turn (.ok ⟨text, some action⟩))

variable {userText toolView maxToolCalls} {before : List ToolResult} {calls : List Call}
  {result : Except String String}

lemma Contract.cons (hlt : before.length < maxToolCalls)
    (h : Contract userText toolView maxToolCalls (before ++ [⟨action.tool, render answer⟩]) calls
      result) (hcalls : calls ≠ []) : Contract userText toolView maxToolCalls before
      (.complete ⟨userText, toolView, before⟩ (.ok ⟨text, some action⟩) ::
        .submit invocationId action.tool action.arguments (.ok answer) :: calls) result := by
  have hsub : maxToolCalls - before.length = maxToolCalls - (before.length + 1) + 1 := by omega
  obtain ⟨hsubmitted, hasked, hcarried, hanswered, hfailed, hlimited, hrefused⟩ := h
  simp only [length_append, length_singleton] at hsubmitted hasked hlimited hrefused
  refine ⟨?_, ?_, ?_, ?_, ?_, ?_, ?_⟩
  · simp
    omega
  · simp
    omega
  · intro k turn out hk
    cases k with
    | zero => simp_all
    | succ k => simpa using hcarried k turn out (by simpa using hk)
  · simpa using hanswered
  · intro call hcall e he
    rcases mem_cons.mp hcall with rfl | hcall
    · cases he
    rcases mem_cons.mp hcall with rfl | hcall
    · cases he
    · obtain ⟨hresult, hlast⟩ := hfailed call hcall e he
      exact ⟨hresult, by simp [getLast?_cons_of_ne_nil, hcalls, hlast]⟩
  · rw [hsub]
    simpa using hlimited
  · intro turn text' action' hasks
    rw [hsub] at hasks
    obtain ⟨hresult, hlast⟩ := hrefused turn text' action' (by simpa using hasks)
    exact ⟨hresult, by simp [getLast?_cons_of_ne_nil, hcalls, hlast]⟩

end AgentCore.AgentRuntime
