import AgentCore.Foundation.Trim
import AgentCore.Domain.Operation

/-! Messages on their way in: the envelope a connector hands over and the event the
gateway makes of it. -/

namespace AgentCore.Domain

open Foundation

structure Uuid where
  text : String
  hex : ∀ c ∈ text.toList, c ∈ "0123456789abcdef".toList
  length_eq : text.length = 32

def newEventId (u : Uuid) : EventId := "event" ++ "_" ++ u.text

lemma bare_newEventId (u : Uuid) : Bare (newEventId u) := by
  have hall : "0123456789abcdef".toList.all (fun c => !isWhitespace c) = true := by decide
  have hhex : ∀ c ∈ "0123456789abcdef".toList, isWhitespace c = false := by
    intro c hc
    simpa using List.all_eq_true.mp hall c hc
  have hblank : ∀ c ∈ u.text.toList, isWhitespace c = false := fun c hc => hhex c (u.hex c hc)
  have hne : u.text ≠ "" := by
    intro h
    have hlen := u.length_eq
    simp [h] at hlen
  have htext : Bare u.text := by
    refine bare_of_trimmed ⟨fun c hc => ?_, fun c hc => ?_⟩ hne
    · exact hblank c (List.mem_of_mem_head? hc)
    · exact hblank c (List.mem_of_getLast? hc)
  have hword : Bare ("event" ++ "_") := ⟨by decide, by decide⟩
  exact hword.append htext

/-- The settings the modelled functions read. -/
structure KernelConfig where
  agentId : AgentId := "main"
  feishuAllowedOpenIds : List String := []
  feishuAllowedChatIds : List String := []
  feishuRequireGroupMention : Bool := true
  extraAllowedOperations : List String := [SYSTEM_STATUS]
  requireWriteApproval : Bool := false
  writeApprovalTtlSecs : Nat := 0
  forceLegacyRuntime : Bool := false
  maxToolRounds : Nat := 12
deriving DecidableEq

inductive ExternalSource
  | cli
  | feishu

structure AuthContext where
  authenticated : Bool

structure IngressEnvelope where
  protocolVersion : String
  source : ExternalSource
  externalEventId : String
  receivedAt : Timestamp
  payload : Json
  authContext : AuthContext

inductive EventSource
  | cli
  | feishu
deriving DecidableEq

inductive RuntimeEventPayload
  | userMessage (text : String) (messageId : Option String) (chatId : Option String)
deriving DecidableEq

structure ValidatedEvent where
  eventId : EventId
  source : EventSource
  principal : RunPrincipal
  sessionTarget : SessionTarget
  payload : RuntimeEventPayload
  dedupeKey : String
  occurredAt : Timestamp
  chatType : Option String
deriving DecidableEq

def ValidatedEvent.SameMessage (e e' : ValidatedEvent) : Prop :=
  { e with occurredAt := e'.occurredAt } = e'

end AgentCore.Domain
