import AgentCore.Foundation.SortBy
import AgentCore.Domain.Operation

/-! Registry snapshots: operations and hook bindings with the identifier their content
gives them. -/

namespace AgentCore.Registry

open Foundation Domain

inductive BindingKind
  | builtin
  | external
deriving DecidableEq

/-- The names that the source prints with its debug formatter. -/
def BindingKind.text : BindingKind → String
  | .builtin => "Builtin"
  | .external => "External"

def riskText : Risk → String
  | .readOnly => "ReadOnly"
  | .write => "Write"

structure OperationSpec where
  name : String
  risk : Risk
  description : String
  parameters : Json
  idempotent : Bool
  bindingKind : BindingKind
  bindingKey : String
deriving DecidableEq

def BUDGET_HOOK_CONTRACT : String := "run.budget.resolve.v0"

structure HookBinding where
  (contract hookId hookVersion : String)
  bindingKind : BindingKind
  (bindingKey providerId endpoint : String)
deriving DecidableEq

def HookBinding.builtinBudget : HookBinding where
  contract := BUDGET_HOOK_CONTRACT
  hookId := "builtin:run-budget-default-v0"
  hookVersion := "v0"
  bindingKind := .builtin
  bindingKey := "builtin.run_budget_default"
  providerId := ""
  endpoint := ""

def builtinHookBindings : List HookBinding := [HookBinding.builtinBudget]

def inheritedHookBindings (bindings : List HookBinding) : List HookBinding :=
  if bindings.isEmpty then builtinHookBindings else bindings

structure RegistrySnapshot where
  snapshotId : String
  createdAt : Timestamp
  operations : List OperationSpec
  hookBindings : List HookBinding
deriving DecidableEq

def RegistrySnapshot.lookup (snapshot : RegistrySnapshot) (name : String) : Option OperationSpec :=
  snapshot.operations.find? fun op => op.name = name

def operationNames (specs : List OperationSpec) : List String := specs.map OperationSpec.name

def hookContracts (bindings : List HookBinding) : List String := bindings.map HookBinding.contract

def sortedByName (specs : List OperationSpec) : List OperationSpec := sortBy OperationSpec.name specs

def sortedByContract (bindings : List HookBinding) : List HookBinding :=
  sortBy HookBinding.contract bindings

/-! ## The identifier of a snapshot -/

def OperationSpec.canonical (spec : OperationSpec) : Json :=
  .mkObj
    [("risk", .str (riskText spec.risk)), ("description", .str spec.description),
      ("parameters", spec.parameters), ("idempotent", .bool spec.idempotent),
      ("binding_kind", .str spec.bindingKind.text), ("binding_key", .str spec.bindingKey)]

def HookBinding.canonical (binding : HookBinding) : Json :=
  .mkObj
    [("contract", .str binding.contract), ("hook_id", .str binding.hookId),
      ("hook_version", .str binding.hookVersion), ("binding_kind", .str binding.bindingKind.text),
      ("binding_key", .str binding.bindingKey), ("provider_id", .str binding.providerId),
      ("endpoint", .str binding.endpoint)]

/-- The map from names to operations. Of two operations with one name the later one stays,
and the entry of the bindings replaces an operation that has its key. -/
def canonicalContent (specs : List OperationSpec) (bindings : List HookBinding) : Json :=
  let sortedBindings := sortedByContract bindings
  .mkObj
    ((sortedByName specs).map (fun spec => (spec.name, spec.canonical)) ++
      if sortedBindings.isEmpty then []
      else [("__hook_bindings", .arr (sortedBindings.map HookBinding.canonical))])

def computeSnapshotIdWithHookBindings [Platform] (specs : List OperationSpec)
    (bindings : List HookBinding) : String :=
  "snap_" ++ Platform.sha256Hex (canonicalContent specs bindings).toText

lemma computeSnapshotId_sorted [Platform] (specs : List OperationSpec) (bindings : List HookBinding) :
    computeSnapshotIdWithHookBindings (sortedByName specs) (sortedByContract bindings) =
      computeSnapshotIdWithHookBindings specs bindings := by
  have hspecs : sortedByName (sortedByName specs) = sortedByName specs := sortBy_sortBy _ _
  have hbindings : sortedByContract (sortedByContract bindings) = sortedByContract bindings :=
    sortBy_sortBy _ _
  rw [computeSnapshotIdWithHookBindings, computeSnapshotIdWithHookBindings, canonicalContent,
    canonicalContent, hspecs, hbindings]

end AgentCore.Registry
