import AgentCore.Gateway.Ingress

/-! Approval of an invocation: the policy stages, the first denial of which wins, and the
shape of a message's arguments. -/

namespace AgentCore.Gateway

open Foundation Domain

variable {intent : InvocationIntent} {session : Session} {snapshot : RegistrySnapshot}
  {decisionId : String} {run : Run}

inductive PolicyVerdict
  | allow
  | deny (reason : String)

def evaluatePolicy (intent : InvocationIntent) (run : Run) (session : Session)
    (snapshot : RegistrySnapshot) : PolicyVerdict :=
  if run.principal.grants.any (fun grant => grant.operation = intent.operation) = false then
    .deny ("capability_not_enabled: " ++ intent.operation)
  else if (snapshot.lookup intent.operation).isNone then
    .deny ("operation_not_allowed: " ++ intent.operation)
  else if ((intent.arguments.get "session_id").bind Json.asStr).getD "" ≠ session.id then
    .deny "target_session_mismatch"
  else .allow

def PENDING_PROPOSAL_KIND : String := "capability_proposal_pending_v1"

def validatePendingProposalPresentation (value : Json) : Except String Unit :=
  match value with
  | .obj fields =>
    if fields.length ≠ 2 ∨ (value.get "kind").bind Json.asStr ≠ some PENDING_PROPOSAL_KIND ∨
        ((value.get "proposal_id").bind Json.asStr).all (fun id => trim id = "") then
      .error "invalid feishu presentation"
    else .ok ()
  | _ => .error "invalid feishu presentation"

def hasText (arguments : Json) : Bool :=
  ((arguments.get "text").bind Json.asStr).any fun text => trim text ≠ ""

def hasPresentation (arguments : Json) : Except String Bool :=
  match arguments.get "presentation" with
  | none => .ok false
  | some value => (validatePendingProposalPresentation value).map fun _ => true

def validateFeishuSendArguments (arguments : Json) : Except String Unit := do
  let _ ← stringArg arguments "message_id"
  let _ ← stringArg arguments "chat_id"
  let presentation ← hasPresentation arguments
  if hasText arguments = presentation then
    .error "feishu send requires exactly one of text or presentation"
  else if (arguments.get "text").isSome && !hasText arguments then
    .error "feishu send text must be a non-empty string"
  else .ok ()

/-- Only the feishu message has its arguments checked beside the policy. -/
def validateArguments (intent : InvocationIntent) : Except String Unit :=
  if intent.operation = FEISHU_SEND_MESSAGE then validateFeishuSendArguments intent.arguments
  else .ok ()

def approveInvocation (intent : InvocationIntent) (run : Run) (session : Session)
    (snapshot : RegistrySnapshot) (decisionId : String) : Except String ApprovedInvocation :=
  match evaluatePolicy intent run session snapshot with
  | .deny reason => .error reason
  | .allow => (validateArguments intent).map fun _ => ⟨intent, decisionId⟩

lemma approveInvocation_eq_ok
    (h : approveInvocation intent run session snapshot decisionId = .ok approved) :
    approved = ⟨intent, decisionId⟩ := by
  unfold approveInvocation at h
  split at h
  · cases h
  · cases hargs : validateArguments intent with
    | error e =>
      rw [hargs] at h
      cases h
    | ok u =>
      rw [hargs] at h
      exact (Except.ok.inj h).symm

end AgentCore.Gateway
