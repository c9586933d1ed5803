import AgentCore.Domain.Types

/-! The operation catalog and the grants a channel's principal receives. -/

namespace AgentCore.Domain

inductive Risk
  | readOnly
  | write
deriving DecidableEq

structure OperationSpec where
  name : String
  risk : Risk
deriving DecidableEq

def STDOUT_SEND_TEXT : String := "stdout.send_text"
def FEISHU_SEND_MESSAGE : String := "feishu.send_message"
def SESSION_RECALL_RECENT : String := "session.recall_recent"
def SYSTEM_STATUS : String := "system.status"

def CATALOG : List OperationSpec :=
  [⟨STDOUT_SEND_TEXT, .write⟩, ⟨FEISHU_SEND_MESSAGE, .write⟩, ⟨SESSION_RECALL_RECENT, .readOnly⟩,
    ⟨SYSTEM_STATUS, .readOnly⟩]

def lookup (name : String) : Option OperationSpec := CATALOG.find? fun spec => spec.name = name

structure RegistrySnapshot where
  snapshotId : String
  operations : List OperationSpec
deriving DecidableEq

def RegistrySnapshot.lookup (snapshot : RegistrySnapshot) (name : String) : Option OperationSpec :=
  snapshot.operations.find? fun spec => spec.name = name

structure ExecutionProfile where
  grants : List CapabilityGrant

namespace ExecutionProfile

def replyOperation : ChannelKind → String
  | .cli => STDOUT_SEND_TEXT
  | .feishu => FEISHU_SEND_MESSAGE

def forChannel (channel : ChannelKind) : ExecutionProfile where
  grants := [⟨replyOperation channel, "current_session"⟩, ⟨SESSION_RECALL_RECENT, "current_session"⟩]

/-- One configured extra operation: empty, unknown and repeated names are dropped. -/
def pushExtra (profile : ExecutionProfile) (name : String) : ExecutionProfile :=
  if name.isEmpty then profile
  else if (lookup name).isNone then profile
  else if profile.grants.any fun g => g.operation = name then profile
  else { grants := profile.grants ++ [⟨name, "current_session"⟩] }

def withExtra (profile : ExecutionProfile) (extraOperations : List String) : ExecutionProfile :=
  extraOperations.foldl pushExtra profile

end ExecutionProfile

end AgentCore.Domain
